import PolicyCheck.Proofs.Agreement
import PolicyCheck.Proofs.CommonContext
import PolicyCheck.Proofs.Environment

/-
  What the order of the actions in a scope has to do with
  the issues of a policy. The candidates stay the same, and
  so do the issues of the scope and the types of principal
  and resource. Only the type of the context depends on the
  candidate that comes first, so all issues stay the same if
  no condition asks for the context, or if the two contexts
  that come first agree.

  Main declarations:
    * `Schema.mem_candidates_listed_iff`
    * `Schema.scopeIssues_listed_perm`
    * `scopeVarTy_congr`
    * `Schema.contexts`
    * `Policy.IgnoresContext`
    * `Validator.policyIssues_listed_perm`
    * `Validator.commonContext_eq_of_perm`
    * `order_of_listed_actions`
    * `sharing_order_matters`
-/

namespace PolicyCheck

------------------------------------------------------------
-- Scopes
------------------------------------------------------------

namespace Schema

variable {schema : Schema} {listed others : List EntityUid}

/- The candidates of a list do not depend on its order. -/
theorem mem_candidates_listed_iff
    (hTabled : schema.Tabled)
    (hPerm : listed.Perm others)
    {info : ActionInfo} :
    info ∈ schema.candidates (.memSet listed) ↔
      info ∈ schema.candidates (.memSet others) := by
  rw [mem_candidates_iff hTabled, mem_candidates_iff hTabled]
  simp only [ActionConstraint.Admits, hPerm.mem_iff]

/- The actions that apply do not depend on it either. -/
theorem mem_applicable_perm_iff
    (hTabled : schema.Tabled)
    (hPerm : listed.Perm others)
    {info : ActionInfo} :
    info ∈ schema.applicable (.memSet listed) ↔
      info ∈ schema.applicable (.memSet others) := by
  unfold applicable
  rw [List.mem_filter, List.mem_filter,
    mem_candidates_listed_iff hTabled hPerm]

/- The issues with a list of actions, in another order. -/
theorem actionIssues_listed_perm
    (hTabled : schema.Tabled)
    (hPerm : listed.Perm others) :
    (schema.actionIssues (.memSet listed)).Perm
      (schema.actionIssues (.memSet others)) := by
  have hEmpty : listed.isEmpty = others.isEmpty :=
    hPerm.isEmpty_eq
  have hNone :
      (schema.applicable (.memSet listed)).isEmpty =
        (schema.applicable (.memSet others)).isEmpty :=
    isEmpty_eq_of_mem_iff fun _ =>
      mem_applicable_perm_iff hTabled hPerm
  change
    (schema.groupIssues (.memSet listed)).Perm
      (schema.groupIssues (.memSet others))
  unfold groupIssues
  simp only [ActionConstraint.uids, hEmpty, hNone]
  by_cases hEmptyToo : others.isEmpty = true
  · simp [hEmptyToo]
  · simp only [hEmptyToo]
    exact ((hPerm.filter _).map _).append_right _

/- The issues with a scope, in another order. -/
theorem scopeIssues_listed_perm
    (hTabled : schema.Tabled)
    (hPerm : listed.Perm others)
    (policy : Policy) :
    (schema.scopeIssues
        { policy with action := .memSet listed }).Perm
      (schema.scopeIssues
        { policy with action := .memSet others }) := by
  have hApplication :
      schema.applicationIssue?
          { policy with action := .memSet listed } =
        schema.applicationIssue?
          { policy with action := .memSet others } :=
    applicationIssue?_congr rfl rfl rfl fun _ =>
      mem_applicable_perm_iff hTabled hPerm
  unfold scopeIssues
  rw [hApplication]
  apply List.Perm.append_right
  exact (actionIssues_listed_perm hTabled hPerm).append_left _

end Schema

------------------------------------------------------------
-- Environments
------------------------------------------------------------

/-
  The type of a variable depends on which types are allowed,
  not on the order they come in.
-/
theorem scopeVarTy_congr
    {allowed others : List EntityType}
    (hSame : ∀ type, type ∈ allowed ↔ type ∈ others)
    (constraint : ScopeConstraint) :
    scopeVarTy constraint allowed = scopeVarTy constraint others := by
  have hPerm := distinct_perm hSame
  have hOpen :
      scopeVarTy .any allowed = scopeVarTy .any others := by
    have hLength := hPerm.length_eq
    unfold scopeVarTy
    rcases hLeft : distinct allowed with _ | ⟨type, _ | ⟨_, _⟩⟩
    · rcases hRight : distinct others with _ | ⟨_, _⟩
      · rfl
      · simp [hLeft, hRight] at hLength
    · rw [hLeft] at hPerm
      rw [List.singleton_perm.mp hPerm]
    · rcases hRight : distinct others with _ | ⟨_, _ | ⟨_, _⟩⟩
      · rfl
      · simp [hLeft, hRight] at hLength
      · rfl
  cases constraint with
  | any => exact hOpen
  | mem uid => exact hOpen
  | eq uid => rfl
  | is type => rfl
  | isIn type uid => rfl

/- The contexts of the candidates of a scope. -/
def Schema.contexts
    (schema : Schema)
    (constraint : ActionConstraint) : List RecordType :=
  (schema.candidates constraint).map ActionInfo.context

/- What conditions can rely on differs at most in the context. -/
theorem Env.ofPolicy_listed
    {schema : Schema}
    {listed others : List EntityUid}
    (hTabled : schema.Tabled)
    (hPerm : listed.Perm others)
    (policy : Policy) :
    Env.ofPolicy schema { policy with action := .memSet listed } =
      { Env.ofPolicy schema
          { policy with action := .memSet others } with
        context :=
          commonContext (schema.contexts (.memSet listed)) } := by
  have hAllowed :
      ∀ (types : ActionInfo → List EntityType) type,
        type ∈ (schema.applicable (.memSet listed)).flatMap types ↔
          type ∈
            (schema.applicable (.memSet others)).flatMap types := by
    intro types type
    rw [List.mem_flatMap, List.mem_flatMap]
    simp only [Schema.mem_applicable_perm_iff hTabled hPerm]
  have hVar := fun types => scopeVarTy_congr (hAllowed types)
  unfold Env.ofPolicy
  simp only [hVar, Schema.contexts]
  rfl

------------------------------------------------------------
-- Policies
------------------------------------------------------------

/- No condition of a policy asks for the context. -/
def Policy.IgnoresContext
    (policy : Policy) : Prop :=
  ∀ clause ∈ policy.conditions,
    ¬ (Expr.var .context).Occurs clause.body

namespace Validator

variable
  {validator : Validator}
  {guard : Guard}
  {policy : Policy}
  {listed others : List EntityUid}

/-
  The conditions have the same issues if none asks for the
  context, or if the contexts have the same in common.
-/
theorem checkConditions_listed
    (hTabled : validator.schema.Tabled)
    (hPerm : listed.Perm others)
    (hContext :
      policy.IgnoresContext ∨
        commonContext (validator.schema.contexts (.memSet listed)) =
          commonContext
            (validator.schema.contexts (.memSet others))) :
    (validator.checker guard
        { policy with action := .memSet listed }).checkConditions
        policy.conditions =
      (validator.checker guard
        { policy with action := .memSet others }).checkConditions
        policy.conditions := by
  have hEnv := Env.ofPolicy_listed hTabled hPerm policy
  apply Checker.Agree.checkConditions
  · exact ⟨rfl, rfl, rfl, rfl⟩
  · intro clause hClause part hOccurs
    cases part with
    | lit value => rfl
    | var name =>
        simp only [Checker.AgreeOn, Validator.checker, hEnv]
        cases name with
        | context =>
            rcases hContext with hIgnores | hSame
            · exact absurd hOccurs (hIgnores clause hClause)
            · simp only [Checker.varTy, hSame]
              rfl
        | _ => rfl
    | _ => trivial

/- All issues of a policy, in another order. -/
theorem policyIssues_listed_perm
    (guard : Guard)
    (hTabled : validator.schema.Tabled)
    (hPerm : listed.Perm others)
    (hContext :
      policy.IgnoresContext ∨
        commonContext (validator.schema.contexts (.memSet listed)) =
          commonContext
            (validator.schema.contexts (.memSet others))) :
    (validator.policyIssues guard
        { policy with action := .memSet listed }).Perm
      (validator.policyIssues guard
        { policy with action := .memSet others }) := by
  unfold policyIssues
  rw [checkConditions_listed hTabled hPerm hContext]
  by_cases hSome : validator.schema.hasApplicableAction = true
  · simp only [hSome, if_true]
    have hScope :=
      Schema.scopeIssues_listed_perm hTabled hPerm policy
    exact (hScope.append_right _).append_right _
  · simp only [hSome]
    exact List.Perm.refl _

/-
  The context itself is no truth value. As a condition it is
  reported with its type, next to the issues of the scope.
-/
theorem policyIssues_of_context
    (policy : Policy)
    (hSome : validator.schema.hasApplicableAction = true)
    (hConditions :
      policy.conditions = [⟨.when, .var .context⟩]) :
    validator.policyIssues Guard.never policy =
      validator.schema.scopeIssues policy ++
        [.unexpectedType .bool
          (.record (Env.ofPolicy validator.schema policy).context)
          (some .notBool)] := by
  have hImpossible : policy.impossibleConditions = [] := by
    rw [Policy.impossibleConditions, hConditions]
    rfl
  rw [policyIssues, if_pos hSome, hImpossible, hConditions,
    List.map_nil, List.append_nil]
  rfl

/-
  A policy with the context as condition tells two orders
  apart if their contexts do not have the same in common.
-/
theorem commonContext_eq_of_perm
    (policy : Policy)
    (hTabled : validator.schema.Tabled)
    (hPerm : listed.Perm others)
    (hSome : validator.schema.hasApplicableAction = true)
    (hConditions :
      policy.conditions = [⟨.when, .var .context⟩])
    (hIssues :
      (validator.policyIssues Guard.never
          { policy with action := .memSet listed }).Perm
        (validator.policyIssues Guard.never
          { policy with action := .memSet others })) :
    commonContext (validator.schema.contexts (.memSet listed)) =
      commonContext
        (validator.schema.contexts (.memSet others)) := by
  rw [
    policyIssues_of_context { policy with action := .memSet listed }
      hSome hConditions,
    policyIssues_of_context { policy with action := .memSet others }
      hSome hConditions] at hIssues
  have hScope :=
    Schema.scopeIssues_listed_perm hTabled hPerm policy
  -- Both report the same about the scope, so that leaves the
  -- two reports about the context.
  have hReports :=
    (List.perm_append_left_iff _).mp
      ((hScope.symm.append_right _).trans hIssues)
  have hReport := List.singleton_inj.mp (List.perm_singleton.mp hReports)
  injection hReport with _ hRecord
  injection hRecord

end Validator

------------------------------------------------------------
-- Orders Of A List
------------------------------------------------------------

/- The contexts of a list of actions do not depend on its order. -/
theorem Schema.mem_contexts_listed_iff
    {schema : Schema}
    {listed others : List EntityUid}
    (hTabled : schema.Tabled)
    (hPerm : listed.Perm others)
    (context : RecordType) :
    context ∈ schema.contexts (.memSet listed) ↔
      context ∈ schema.contexts (.memSet others) := by
  unfold contexts
  rw [List.mem_map, List.mem_map]
  simp only [mem_candidates_listed_iff hTabled hPerm]

/- The contexts of a schema that is built are in order. -/
theorem Schema.contexts_ordered_of_build
    {allowUnknown : Bool}
    {fragments : List Fragment}
    {schema : Schema}
    (hBuilt : Schema.build allowUnknown fragments = .ok schema)
    (hOrdered : ∀ fragment ∈ fragments, fragment.Ordered)
    (constraint : ActionConstraint) :
    ∀ context ∈ schema.contexts constraint,
      (Ty.record context).Ordered := by
  intro context hContext
  have hTabled := Schema.tabled_of_build hBuilt
  rcases List.mem_map.mp hContext with ⟨info, hInfo, rfl⟩
  have hDeclared := ((mem_candidates_iff hTabled).mp hInfo).1
  exact context_ordered_of_build hBuilt hOrdered
    ((action?_eq_some_iff hTabled).mpr ⟨hDeclared, rfl⟩)

/-
  The same is reported for a list of actions in any order if
  no condition asks for the context, or if the contexts that
  come first agree. Where they do not agree, there are
  conditions for which the reports differ.
-/
theorem order_of_listed_actions
    {allowUnknown : Bool}
    {fragments : List Fragment}
    {schema : Schema}
    (hBuilt : Schema.build allowUnknown fragments = .ok schema)
    (hOrdered : ∀ fragment ∈ fragments, fragment.Ordered)
    (options : Options)
    (guard : Guard)
    (policy : Policy)
    (listed others : List EntityUid)
    (hPerm : listed.Perm others) :
    (policy.IgnoresContext ∨
        LeadsAgree (schema.contexts (.memSet listed))
          (schema.contexts (.memSet others)) →
      ((Validator.mk schema options).validatePolicies guard
            [{ policy with action := .memSet listed }] ≠ [] ↔
        (Validator.mk schema options).validatePolicies guard
            [{ policy with action := .memSet others }] ≠ []) ∧
        ((Validator.mk schema options).validatePolicies guard
            [{ policy with action := .memSet listed }]).Perm
          ((Validator.mk schema options).validatePolicies guard
            [{ policy with action := .memSet others }])) ∧
      (schema.hasApplicableAction = true →
        ¬ LeadsAgree (schema.contexts (.memSet listed))
            (schema.contexts (.memSet others)) →
          ∃ conditions : List Clause,
            ¬ ((Validator.mk schema options).validatePolicies
                Guard.never
                [{ policy with
                  action := .memSet listed
                  conditions := conditions }]).Perm
              ((Validator.mk schema options).validatePolicies
                Guard.never
                [{ policy with
                  action := .memSet others
                  conditions := conditions }])) := by
  have hTabled : (Validator.mk schema options).schema.Tabled :=
    Schema.tabled_of_build hBuilt
  have hAgree :=
    commonContext_eq_iff
      (Schema.contexts_ordered_of_build hBuilt hOrdered
        (.memSet listed))
      (Schema.mem_contexts_listed_iff hTabled hPerm)
  simp only [Validator.validatePolicies_singleton]
  constructor
  · intro hContext
    have hIssues :=
      Validator.policyIssues_listed_perm guard hTabled hPerm
        (hContext.imp_right hAgree.mpr)
    have hReports := hIssues.map (Diagnostic.mk policy.id)
    refine ⟨?_, hReports⟩
    rw [ne_eq, ne_eq, ← List.isEmpty_iff, ← List.isEmpty_iff,
      hReports.isEmpty_eq]
  · intro hSome hDiffer
    refine ⟨[⟨.when, .var .context⟩], fun hReports => hDiffer ?_⟩
    have hIssues := hReports.map Diagnostic.issue
    simp only [List.map_map, Function.comp_def, List.map_id_fun',
      id_eq] at hIssues
    apply hAgree.mp
    exact Validator.commonContext_eq_of_perm
      { policy with conditions := [⟨.when, .var .context⟩] }
      hTabled hPerm hSome rfl hIssues

------------------------------------------------------------
-- Two Orders Of Two Actions
------------------------------------------------------------

/- The two actions of the sharing schemas are in no group. -/
theorem sharing_candidates
    (audited opened : Ty)
    (listed : List EntityUid) :
    (sharingSchema audited opened).candidates (.memSet listed) =
      distinctBy ActionInfo.name
        (listed.flatMap fun uid =>
          (sharingSchema audited opened).actionInfos.filter
            fun action => action.name = uid) := by
  have hUngrouped :
      ∀ uid info,
        (sharingSchema audited opened).action? uid = some info →
          info.memberOf = [] := by
    intro uid info hInfo
    have hMem := Assoc.mem_of_find? hInfo
    simp only [sharingSchema, List.mem_cons, List.not_mem_nil,
      or_false, Prod.mk.injEq] at hMem
    rcases hMem with ⟨_, rfl⟩ | ⟨_, rfl⟩
    · rfl
    · rfl
  change
    distinctBy ActionInfo.name
        (listed.flatMap (sharingSchema audited opened).actionsIn) = _
  rw [funext (Schema.actionsIn_of_ungrouped hUngrouped)]

/- A policy on documents whose owner has some level. -/
def levelPolicy
    (actions : List EntityUid) : Policy :=
  ⟨⟨"level"⟩, .permit, .any, .memSet actions, .any,
    [⟨.when, .binary .eq
      (.getAttr (.getAttr (.var .context) "owner") "level")
      (.lit (.long 1))⟩]⟩

/- Both actions allow only users. -/
def usersOnly : Schema :=
  sharingSchema (.entity ⟨"User"⟩) (.entity ⟨"User"⟩)

/-
  Where both contexts ask for users as owners, what is
  reported about their level is the same in both orders.
-/
theorem usersOnly_order_judged_alike :
    ∃ fragment,
      Fragment.ofJson
          (sharingDocument [("name", .str "User")]
            [("name", .str "User")]) =
        .ok fragment ∧
      Schema.build false [fragment] = .ok usersOnly ∧
      ((Validator.mk usersOnly default).validatePolicies
          Guard.never
          [levelPolicy
            [⟨⟨"Action"⟩, "audit"⟩, ⟨⟨"Action"⟩, "read"⟩]]).Perm
        ((Validator.mk usersOnly default).validatePolicies
          Guard.never
          [levelPolicy
            [⟨⟨"Action"⟩, "read"⟩, ⟨⟨"Action"⟩, "audit"⟩]]) := by
  have hFragment :
      ∃ fragment,
        Fragment.ofJson
            (sharingDocument [("name", .str "User")]
              [("name", .str "User")]) =
          .ok fragment ∧
        Schema.build false [fragment] = .ok usersOnly :=
    ⟨_, rfl, rfl⟩
  rcases hFragment with ⟨fragment, hRead, hBuilt⟩
  have hOrdered : ∀ other ∈ [fragment], other.Ordered := by
    simpa using Fragment.ordered_of_ofJson hRead
  have hAgree :
      LeadsAgree
        (usersOnly.contexts (.memSet
          [⟨⟨"Action"⟩, "audit"⟩, ⟨⟨"Action"⟩, "read"⟩]))
        (usersOnly.contexts (.memSet
          [⟨⟨"Action"⟩, "read"⟩, ⟨⟨"Action"⟩, "audit"⟩])) := by
    have hHeads :
        (usersOnly.contexts (.memSet
          [⟨⟨"Action"⟩, "audit"⟩, ⟨⟨"Action"⟩, "read"⟩])).head? =
          (usersOnly.contexts (.memSet
            [⟨⟨"Action"⟩, "read"⟩,
              ⟨⟨"Action"⟩, "audit"⟩])).head? := by
      simp only [Schema.contexts, usersOnly, sharing_candidates]
      rfl
    intro first hFirst second hSecond name a b hA hB _
    rw [hHeads] at hFirst
    rw [Option.mem_unique hFirst hSecond, hB] at hA
    rw [Option.some.inj hA]
  have hAlike :=
    (order_of_listed_actions hBuilt hOrdered default Guard.never
      (levelPolicy []) _ _ (List.Perm.swap _ _ [])).1
      (.inr hAgree)
  exact ⟨fragment, hRead, hBuilt, hAlike.2⟩

/-
  Where the contexts do not agree on the owner, the policy
  passes or not by the order in which the actions are listed.
-/
theorem sharing_order_matters :
    ∃ fragment,
      Fragment.ofJson
          (sharingDocument [("name", .str "User")] []) =
        .ok fragment ∧
      Schema.build false [fragment] = .ok userOwnerFirst ∧
      (Validator.mk userOwnerFirst default).validatePolicies
          Guard.never
          [levelPolicy
            [⟨⟨"Action"⟩, "audit"⟩, ⟨⟨"Action"⟩, "read"⟩]] =
        [⟨⟨"level"⟩, .unsafeAccess (.entity ⟨"User"⟩ "level") none⟩] ∧
      (Validator.mk userOwnerFirst default).validatePolicies
          Guard.never
          [levelPolicy
            [⟨⟨"Action"⟩, "read"⟩, ⟨⟨"Action"⟩, "audit"⟩]] = [] := by
  have hFragment :
      ∃ fragment,
        Fragment.ofJson
            (sharingDocument [("name", .str "User")] []) =
          .ok fragment ∧
        Schema.build false [fragment] = .ok userOwnerFirst :=
    ⟨_, rfl, rfl⟩
  rcases hFragment with ⟨fragment, hRead, hBuilt⟩
  have hScope :
      userOwnerFirst.scopeIssues
        (levelPolicy
          [⟨⟨"Action"⟩, "audit"⟩, ⟨⟨"Action"⟩, "read"⟩]) = [] := by
    decide +kernel
  have hScopeToo :
      userOwnerFirst.scopeIssues
        (levelPolicy
          [⟨⟨"Action"⟩, "read"⟩, ⟨⟨"Action"⟩, "audit"⟩]) = [] := by
    have hPerm :=
      Schema.scopeIssues_listed_perm (Schema.tabled_of_build hBuilt)
        (List.Perm.swap ⟨⟨"Action"⟩, "audit"⟩
          ⟨⟨"Action"⟩, "read"⟩ [])
        (levelPolicy [])
    exact List.perm_nil.mp (hPerm.trans (.of_eq hScope))
  refine ⟨fragment, hRead, hBuilt, ?_, ?_⟩
  · rw [Validator.validatePolicies_singleton, Validator.policyIssues,
      hScope]
    simp only [Validator.checker, Env.ofPolicy, Schema.applicable,
      levelPolicy, userOwnerFirst, sharing_candidates]
    rfl
  · rw [Validator.validatePolicies_singleton, Validator.policyIssues,
      hScopeToo]
    simp only [Validator.checker, Env.ofPolicy, Schema.applicable,
      levelPolicy, userOwnerFirst, sharing_candidates]
    rfl

end PolicyCheck
