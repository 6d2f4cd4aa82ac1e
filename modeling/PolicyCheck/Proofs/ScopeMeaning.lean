import PolicyCheck.Proofs.Candidates
import PolicyCheck.Proofs.ConditionIssues
import PolicyCheck.Proofs.Conforming
import PolicyCheck.Validator

/-
  What the scope of a policy says about a request and a
  store of entities, and that the check of scopes never
  refuses a policy that some accepted request satisfies.

  Main declarations:
    * `Schema.Linked`
    * `ScopeConstraint.Admits`
    * `Policy.Admits`
    * `Schema.scopeAllows_of_admits`
    * `Schema.actionIssues_possible`
    * `Schema.applicationIssue?_eq_none`
    * `no_scope_impossibility_of_admits`
-/

------------------------------------------------------------
-- Scopes
------------------------------------------------------------

namespace PolicyCheck

/-
  An entity is another one, or a chain of direct parents in
  the store leads from it to the other. All entities before
  the last are in order, and none of them is an action.
-/
inductive Schema.Linked
    (schema : Schema)
    (mode : Mode)
    (store : List Entity) :
    EntityUid → EntityUid → Prop where
  | refl (uid : EntityUid) : Linked schema mode store uid uid
  | parent
      {entity : Entity}
      {parent target : EntityUid}
      (hStored : entity ∈ store)
      (hAction : entity.uid.type.isAction = false)
      (hOrder : schema.checkEntity mode entity = [])
      (hParent : parent ∈ entity.parents)
      (hRest : Linked schema mode store parent target) :
      Linked schema mode store entity.uid target

/- What a scope says about the principal or the resource. -/
def ScopeConstraint.Admits
    (schema : Schema)
    (mode : Mode)
    (store : List Entity)
    (entity : EntityUid) : ScopeConstraint → Prop
  | .any => True
  | .eq uid => entity = uid
  | .mem uid => schema.Linked mode store entity uid
  | .is type => entity.type = type
  | .isIn type uid =>
      entity.type = type ∧ schema.Linked mode store entity uid

/- A request satisfies the scope of a policy. -/
structure Policy.Admits
    (policy : Policy)
    (schema : Schema)
    (mode : Mode)
    (store : List Entity)
    (request : Request) : Prop where
  principal :
    policy.principal.Admits schema mode store request.principal
  action : policy.action.Admits schema request.action
  resource :
    policy.resource.Admits schema mode store request.resource

namespace Schema

variable {schema : Schema} {mode : Mode} {store : List Entity}

/-
  A chain of parents in the store is a chain of memberships
  between their types, as each entity on it is in order.
-/
theorem canBelong_of_linked
    {entity target : EntityUid}
    (hLinked : schema.Linked mode store entity target) :
    entity = target ∨
      Relation.TransGen schema.CanBelong entity.type
        target.type := by
  induction hLinked with
  | refl uid => exact Or.inl rfl
  | @parent entity parent target _ hAction hOrder hParent _ ih =>
      right
      have hStep :
          schema.CanBelong entity.uid.type parent.type := by
        rcases checkEntity_eq_nil_iff.mp hOrder with
          hIsAction | ⟨info, hInfo, _, hParents⟩
        · rw [hAction] at hIsAction
          exact Bool.noConfusion hIsAction
        · exact ⟨info, hInfo, hParents parent hParent⟩
      rcases ih with rfl | hPath
      · exact .single hStep
      · exact .head hStep hPath

/- A scope that admits an entity allows its type. -/
theorem scopeAllows_of_admits
    {constraint : ScopeConstraint}
    {entity : EntityUid}
    {allowed : List EntityType}
    (hAdmits : constraint.Admits schema mode store entity)
    (hAllowed : entity.type ∈ allowed) :
    schema.scopeAllows constraint allowed = true := by
  cases constraint with
  | any => rfl
  | eq uid =>
      have hEq : entity = uid := hAdmits
      rw [hEq] at hAllowed
      simp [scopeAllows, hAllowed]
  | is type =>
      have hType : entity.type = type := hAdmits
      rw [hType] at hAllowed
      simp [scopeAllows, hAllowed]
  | isIn type uid =>
      have hType : entity.type = type := hAdmits.1
      rw [hType] at hAllowed
      simp [scopeAllows, hAllowed]
  | mem uid =>
      rcases canBelong_of_linked hAdmits with rfl | hPath
      · simp [scopeAllows, hAllowed]
      · have hReaches := canBeDescendant_iff.mpr hPath
        unfold scopeAllows
        rw [Bool.or_eq_true, List.any_eq_true]
        exact Or.inr ⟨entity.type, hAllowed, hReaches⟩

------------------------------------------------------------
-- Checked Scopes
------------------------------------------------------------

/- Only the types that a policy names can be unrecognized. -/
theorem typeIssues_possible
    (policy : Policy) :
    ∀ issue ∈ schema.typeIssues policy,
      issue.isImpossibleScope = false := by
  intro issue hIssue
  rcases List.mem_map.mp hIssue with ⟨type, _, rfl⟩
  rfl

/- With an action that applies no action scope is impossible. -/
theorem actionIssues_possible
    (hTabled : schema.Tabled)
    {constraint : ActionConstraint}
    {info : ActionInfo}
    (hApplicable : info ∈ schema.applicable constraint) :
    ∀ issue ∈ schema.actionIssues constraint,
      issue.isImpossibleScope = false := by
  rcases List.mem_filter.mp hApplicable with ⟨hCandidate, hValid⟩
  rcases (mem_candidates_iff hTabled).mp hCandidate with
    ⟨hInfo, hAdmits⟩
  -- A group without members would not admit the action.
  have hGroups :
      constraint.uids ≠ [] →
        ∀ issue ∈ schema.groupIssues constraint,
          issue.isImpossibleScope = false := by
    intro hUids issue hIssue
    have hSome : schema.applicable constraint ≠ [] :=
      List.ne_nil_of_mem hApplicable
    simp only [groupIssues, List.isEmpty_iff, hUids, if_false,
      hSome, List.append_nil] at hIssue
    rcases List.mem_map.mp hIssue with ⟨uid, _, rfl⟩
    rfl
  cases constraint with
  | any => simp [actionIssues]
  | eq uid =>
      have hName : info.name = uid := hAdmits
      have hFound : schema.action? uid = some info :=
        (action?_eq_some_iff hTabled).mpr ⟨hInfo, hName⟩
      simp [actionIssues, hFound, hValid]
  | mem uid => exact hGroups (by simp [ActionConstraint.uids])
  | memSet uids =>
      rcases hAdmits with ⟨uid, hUid, _⟩
      exact hGroups (List.ne_nil_of_mem hUid)

/- With an action that applies to both sides nothing is refused. -/
theorem applicationIssue?_eq_none
    {policy : Policy}
    {info : ActionInfo}
    (hApplicable : info ∈ schema.applicable policy.action)
    (hPrincipal :
      schema.scopeAllows policy.principal info.principals = true)
    (hResource :
      schema.scopeAllows policy.resource info.resources = true) :
    schema.applicationIssue? policy = none := by
  have hSome : schema.applicable policy.action ≠ [] :=
    List.ne_nil_of_mem hApplicable
  have hAny :
      (schema.applicable policy.action).any
          (fun action =>
            schema.scopeAllows policy.principal action.principals &&
              schema.scopeAllows policy.resource action.resources) =
        true := by
    rw [List.any_eq_true]
    refine ⟨info, hApplicable, ?_⟩
    rw [hPrincipal, hResource]
    rfl
  simp only [applicationIssue?, List.isEmpty_iff, hSome, if_false,
    hAny, if_true]

end Schema

------------------------------------------------------------
-- No False Impossibility
------------------------------------------------------------

/- Constant conditions are not a matter of scope. -/
theorem Policy.impossibleConditions_not_ofScope
    (policy : Policy) :
    ∀ reason ∈ policy.impossibleConditions,
      reason.isOfScope = false := by
  intro reason hReason
  rcases List.mem_filterMap.mp hReason with ⟨clause, _, hClause⟩
  unfold Clause.impossibility? at hClause
  split at hClause
  · rcases Option.some.inj hClause with rfl
    rfl
  · rcases Option.some.inj hClause with rfl
    rfl
  · cases hClause

/- An issue that is not of impossibility is not of scope. -/
theorem Issue.isImpossibleScope_eq_false
    {issue : Issue}
    (hPossible : issue.isImpossible = false) :
    issue.isImpossibleScope = false := by
  cases issue with
  | impossible reason => cases hPossible
  | _ => rfl

/-
  The action of an accepted request applies to some types,
  so as a candidate it is among those that apply.
-/
theorem Schema.mem_applicable_of_accepted
    {schema : Schema}
    {mode : Mode}
    (hTabled : schema.Tabled)
    (hClosed : schema.Closed)
    {request : Request}
    (hAccepted : schema.checkRequest mode request = none)
    {constraint : ActionConstraint}
    {info : ActionInfo}
    (hCandidate : info ∈ schema.candidates constraint)
    (hName : info.name = request.action) :
    info ∈ schema.applicable constraint ∧
      schema.action? request.action = some info ∧
      request.principal.type ∈ info.principals ∧
      request.resource.type ∈ info.resources ∧
      info.context.Accepts mode request.context := by
  have hInfo : info ∈ schema.actionInfos :=
    ((Schema.mem_candidates_iff hTabled).mp hCandidate).1
  have hDeclared : schema.action? request.action = some info :=
    (Schema.action?_eq_some_iff hTabled).mpr ⟨hInfo, hName⟩
  rcases Schema.context_accepts_of_checkRequest hDeclared
      hAccepted with
    ⟨hPrincipal, hResource, hContext⟩
  have hValid : schema.hasValidAppliesTo info = true :=
    Schema.hasValidAppliesTo_of_closed hClosed hInfo hPrincipal
      hResource
  exact
    ⟨List.mem_filter.mpr ⟨hCandidate, hValid⟩, hDeclared,
      hPrincipal, hResource, hContext⟩

/-
  The action of an accepted request that satisfies a scope
  is among those that apply, and allows both of its sides.
-/
theorem Schema.exists_applicable_of_admits
    {schema : Schema}
    {mode : Mode}
    {store : List Entity}
    (hTabled : schema.Tabled)
    (hClosed : schema.Closed)
    {policy : Policy}
    {request : Request}
    (hAccepted : schema.checkRequest mode request = none)
    (hAdmits : policy.Admits schema mode store request) :
    ∃ info ∈ schema.applicable policy.action,
      schema.scopeAllows policy.principal info.principals = true ∧
        schema.scopeAllows policy.resource info.resources =
          true := by
  rcases Schema.checkRequest_eq_none_iff.mp hAccepted with
    ⟨info, hFound, _⟩
  rcases (Schema.action?_eq_some_iff hTabled).mp hFound with
    ⟨hInfo, hName⟩
  have hCandidate : info ∈ schema.candidates policy.action := by
    refine (Schema.mem_candidates_iff hTabled).mpr ⟨hInfo, ?_⟩
    rw [hName]
    exact hAdmits.action
  rcases Schema.mem_applicable_of_accepted hTabled hClosed
      hAccepted hCandidate hName with
    ⟨hApplicable, _, hPrincipal, hResource, _⟩
  exact
    ⟨info, hApplicable,
      Schema.scopeAllows_of_admits hAdmits.principal hPrincipal,
      Schema.scopeAllows_of_admits hAdmits.resource hResource⟩

/-
  A policy whose scope is satisfied by an accepted request
  is never called impossible because of its scope, whatever
  entities are stored.
-/
theorem no_scope_impossibility_of_admits
    {fragments : List Fragment}
    {schema : Schema}
    (hBuilt : Schema.build false fragments = .ok schema)
    (options : Options)
    (guard : Guard)
    (policy : Policy)
    (request : Request)
    (store : List Entity)
    (hAccepted :
      (Validator.mk schema options).validateRequest request = none)
    (hAdmits :
      policy.Admits schema options.mode store request) :
    ∀ diagnostic ∈
        (Validator.mk schema options).validatePolicies guard
          [policy],
      diagnostic.issue.isImpossibleScope = false := by
  have hTabled := Schema.tabled_of_build hBuilt
  have hClosed := Schema.closed_of_build hBuilt
  rcases Schema.exists_applicable_of_admits hTabled hClosed
      hAccepted hAdmits with
    ⟨info, hApplicable, hPrincipal, hResource⟩
  have hHasAction : schema.hasApplicableAction = true := by
    rcases List.mem_filter.mp hApplicable with ⟨hCandidate, hValid⟩
    rw [Schema.hasApplicableAction, List.any_eq_true]
    refine
      ⟨info, ((Schema.mem_candidates_iff hTabled).mp
        hCandidate).1, ?_⟩
    unfold Schema.hasValidAppliesTo at hValid
    exact (Bool.and_eq_true_iff.mp hValid).1
  intro diagnostic hDiagnostic
  simp only [Validator.validatePolicies, List.flatMap_cons,
    List.flatMap_nil, List.append_nil] at hDiagnostic
  rcases List.mem_map.mp hDiagnostic with ⟨issue, hIssue, rfl⟩
  simp only [Validator.policyIssues, hHasAction, if_true,
    Schema.scopeIssues,
    Schema.applicationIssue?_eq_none hApplicable hPrincipal
      hResource,
    Option.toList_none, List.map_nil, List.append_nil,
    List.mem_append] at hIssue
  rcases hIssue with ((hTypes | hActions) | hConstant) | hTyping
  · exact Schema.typeIssues_possible policy issue hTypes
  · exact
      Schema.actionIssues_possible hTabled hApplicable issue
        hActions
  · rcases List.mem_map.mp hConstant with ⟨reason, hReason, rfl⟩
    exact policy.impossibleConditions_not_ofScope reason hReason
  · exact
      Issue.isImpossibleScope_eq_false
        (Checker.checkConditions_possible _ _ issue hTyping)

/-
  An office whose groups can hold each other and belong to
  an organisation, with one action in a group of actions.
-/
def officeFragment : Fragment :=
  ⟨[("", {
      commonTypes := []
      entityTypes := [
        ("Doc", default),
        ("Group", { (default : EntityTypeSpec) with
          memberOfTypes := ["Group", "Org"] }),
        ("Org", default),
        ("User", { (default : EntityTypeSpec) with
          memberOfTypes := ["Group"] })]
      actions := [
        ("read", default),
        ("view", { (default : ActionSpec) with
          appliesTo := some ⟨["Doc"], ["User"], none⟩
          memberOf := some [⟨"read", none⟩] })]
      annotations := [] })]⟩

/- The schema of the office. -/
def officeSchema : Schema :=
  ⟨[(⟨"Doc"⟩, ⟨⟨"Doc"⟩, .anything, []⟩),
      (⟨"Group"⟩,
        ⟨⟨"Group"⟩, .anything, [⟨"Group"⟩, ⟨"Org"⟩]⟩),
      (⟨"Org"⟩, ⟨⟨"Org"⟩, .anything, []⟩),
      (⟨"User"⟩, ⟨⟨"User"⟩, .anything, [⟨"Group"⟩]⟩)],
    [(⟨⟨"Action"⟩, "read"⟩,
        ⟨⟨⟨"Action"⟩, "read"⟩, [], [], .anything, []⟩),
      (⟨⟨"Action"⟩, "view"⟩,
        ⟨⟨⟨"Action"⟩, "view"⟩, [⟨"User"⟩], [⟨"Doc"⟩],
          .anything, [⟨⟨"Action"⟩, "read"⟩]⟩)],
    []⟩

/- A user of the office, and the two groups above them. -/
def officeStore : List Entity :=
  [⟨⟨⟨"User"⟩, "ann"⟩, [], [⟨⟨"Group"⟩, "editors"⟩]⟩,
    ⟨⟨⟨"Group"⟩, "editors"⟩, [], [⟨⟨"Group"⟩, "staff"⟩]⟩,
    ⟨⟨⟨"Group"⟩, "staff"⟩, [], [⟨⟨"Org"⟩, "acme"⟩]⟩]

/- Members of the organisation may read all documents. -/
def officePolicy : Policy :=
  ⟨⟨"members"⟩, .permit, .mem ⟨⟨"Org"⟩, "acme"⟩,
    .mem ⟨⟨"Action"⟩, "read"⟩, .is ⟨"Doc"⟩, []⟩

/- The user views a document. -/
def officeRequest : Request :=
  ⟨⟨⟨"User"⟩, "ann"⟩, ⟨⟨"Action"⟩, "view"⟩, ⟨⟨"Doc"⟩, "plan"⟩, []⟩

/-
  The user is three parents away from the organisation, and
  the action is in its group only through its declaration.
-/
theorem office_no_scope_impossibility :
    Schema.build false [officeFragment] = .ok officeSchema ∧
      (Validator.mk officeSchema default).validateRequest
          officeRequest = none ∧
      officePolicy.Admits officeSchema (default : Options).mode
        officeStore officeRequest ∧
      ∀ diagnostic ∈
          (Validator.mk officeSchema default).validatePolicies
            Guard.never [officePolicy],
        diagnostic.issue.isImpossibleScope = false := by
  have hBuilt :
      Schema.build false [officeFragment] = .ok officeSchema := by
    rfl
  have hAccepted :
      (Validator.mk officeSchema default).validateRequest
        officeRequest = none := by
    rfl
  have hAdmits :
      officePolicy.Admits officeSchema (default : Options).mode
        officeStore officeRequest := by
    refine ⟨?_, Or.inr (.single ⟨_, rfl, List.mem_cons_self⟩), rfl⟩
    have hStaff :
        officeSchema.Linked (default : Options).mode officeStore
          ⟨⟨"Group"⟩, "staff"⟩ ⟨⟨"Org"⟩, "acme"⟩ :=
      .parent (.tail _ (.tail _ (.head _))) rfl rfl
        List.mem_cons_self (.refl _)
    have hEditors :
        officeSchema.Linked (default : Options).mode officeStore
          ⟨⟨"Group"⟩, "editors"⟩ ⟨⟨"Org"⟩, "acme"⟩ :=
      .parent (.tail _ (.head _)) rfl rfl List.mem_cons_self
        hStaff
    exact .parent (.head _) rfl rfl List.mem_cons_self hEditors
  exact
    ⟨hBuilt, hAccepted, hAdmits,
      no_scope_impossibility_of_admits hBuilt default Guard.never
        officePolicy officeRequest officeStore hAccepted hAdmits⟩

end PolicyCheck
