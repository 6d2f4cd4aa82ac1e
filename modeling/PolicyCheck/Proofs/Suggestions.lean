import PolicyCheck.Proofs.DisplayedNames
import PolicyCheck.Proofs.EditDistance
import PolicyCheck.Proofs.Environment
import PolicyCheck.Proofs.Mentions
import PolicyCheck.Proofs.ScopeBlame

/-
  What is suggested exists. Suggested types are declared, and
  suggested attributes are declared where they are looked
  for: in the shape of a type, in the context of an action,
  or in the type of a record. An action of which the id is
  wrong is suggested under the type that was written for it,
  so it exists exactly if this type has an action of that id.

  Main declarations:
    * `Schema.DeclaresAction`
    * `Schema.BacksHint`
    * `Validator.BacksAttr`
    * `Validator.Backs`
    * `Schema.BacksFinding`
    * `Checker.exists_access_of_check`
    * `suggestions_name_what_exists`
-/

namespace PolicyCheck

------------------------------------------------------------
-- Types And Actions
------------------------------------------------------------

namespace Schema

variable {schema : Schema}

/- An action is declared under an identifier. -/
def DeclaresAction
    (schema : Schema)
    (uid : EntityUid) : Prop :=
  ∃ info ∈ schema.actionInfos, info.name = uid

/- A text is the displayed identifier of a declared action. -/
def DisplaysAction
    (schema : Schema)
    (text : String) : Prop :=
  ∃ uid, schema.DeclaresAction uid ∧ text = uid.display

/-
  A hint on an undeclared action is backed. A hint at the id
  displays a declared action. An alternative has the closest
  id of all declared actions under the type of the undeclared
  one, and displays a declared action exactly if there is one
  of this id and this type.
-/
def BacksHint
    (schema : Schema)
    (uid : EntityUid) : ActionHint → Prop
  | .typeInId action => schema.DisplaysAction action
  | .alternative action =>
      ∃ id,
        Text.IsFirstClosest uid.id.toList
            (schema.actionInfos.map fun info => info.name.id) id ∧
          action = (EntityUid.mk uid.type id).display ∧
          (schema.DisplaysAction action ↔
            schema.DeclaresAction ⟨uid.type, id⟩)

/- The closest name is the name of a declared type. -/
theorem mem_typeNames_of_suggestType?
    {type : EntityType}
    {name : String}
    (hClosest : schema.suggestType? type = some name) :
    ⟨name⟩ ∈ schema.typeNames := by
  rcases List.mem_map.mp (Text.mem_of_closest hClosest) with
    ⟨other, hMem, rfl⟩
  exact hMem

theorem mem_typeNames_of_suggestTypes
    {type other : EntityType}
    (hMem : other ∈ schema.suggestTypes type) :
    other ∈ schema.typeNames := by
  unfold suggestTypes at hMem
  dsimp only at hMem
  split at hMem
  · rcases Option.map_eq_some_iff.mp (Option.mem_toList.mp hMem) with
      ⟨name, hClosest, rfl⟩
    exact mem_typeNames_of_suggestType? hClosest
  · exact (List.mem_filter.mp hMem).1

/- Displays are told apart, so a display is of one action only. -/
theorem displaysAction_iff
    {uid : EntityUid} :
    schema.DisplaysAction uid.display ↔ schema.DeclaresAction uid := by
  constructor
  · intro hDisplays
    rcases hDisplays with ⟨other, hDeclared, hSame⟩
    rw [EntityUid.display_injective hSame]
    exact hDeclared
  · intro hDeclared
    exact ⟨uid, hDeclared, rfl⟩

theorem declaresAction_of_actionAfterType?
    {uid action : EntityUid}
    (hFound : schema.actionAfterType? uid = some action) :
    schema.DeclaresAction action := by
  simp only [actionAfterType?, Option.bind_eq_bind,
    Option.bind_eq_some_iff, Option.some.injEq] at hFound
  rcases hFound with ⟨id, _, info, hInfo, hName⟩
  exact ⟨info, List.mem_of_find?_eq_some hInfo, hName⟩

theorem backsHint_of_suggestAction?
    {uid : EntityUid}
    {hint : ActionHint}
    (hSuggest : schema.suggestAction? uid = some hint) :
    schema.BacksHint uid hint := by
  unfold suggestAction? at hSuggest
  split at hSuggest
  · rename_i action hFound
    cases hSuggest
    exact ⟨action, declaresAction_of_actionAfterType? hFound, rfl⟩
  · rcases Option.map_eq_some_iff.mp hSuggest with
      ⟨id, hClosest, rfl⟩
    exact
      ⟨id, Text.isFirstClosest_of_closest hClosest, rfl,
        displaysAction_iff⟩

end Schema

------------------------------------------------------------
-- Attributes
------------------------------------------------------------

namespace Checker

variable {checker : Checker}

/- Only attribute accesses have issues that are on accesses. -/
theorem findsElsewhere_notOnAccess
    (checker : Checker) :
    checker.FindsElsewhere fun issue => issue.isOnAccess = false :=
  findsElsewhere_of_elsewhere fun _ hElsewhere =>
    (Issue.isElsewhere_iff.mp hElsewhere).2

/-
  What is on an attribute access is found with an access in
  the expression, given the type of what it is on.
-/
theorem exists_access_of_check
    {position : Position}
    {level : Nat}
    {e : Expr}
    {issue : Issue}
    (hIssue : issue ∈ (checker.check position level e).2)
    (hAccess : issue.isOnAccess = true) :
    ∃ base attr place depth,
      (Expr.getAttr base attr).Occurs e ∧
        issue ∈ (checker.accessAttr base attr
          (checker.check place depth base).1).2 := by
  rcases cases_of_mem_check hIssue with
    rfl | ⟨depth, hLevel⟩ | ⟨inner, place, depth, hOccurs, hVerdict⟩
  · cases hAccess
  · rcases exists_of_mem_levelIssues hLevel with ⟨allowed, rfl⟩
    cases hAccess
  · cases hInner : inner.isAccess with
    | true =>
        cases inner with
        | getAttr base attr =>
            have hLast := hVerdict.resolve_left (by simp [verdict])
            exact ⟨base, attr, _, _, hOccurs, hLast⟩
        | _ => cases hInner
    | false =>
        have hFinds := checker.findsElsewhere_notOnAccess
        rcases hVerdict with hFirst | hLast
        · rw [(hFinds.verdict hInner _).1 issue hFirst] at hAccess
          cases hAccess
        · rw [(hFinds.verdict hInner _).2 issue hLast] at hAccess
          cases hAccess

/- So it is for the conditions of a policy. -/
theorem exists_access_of_checkConditions
    {conditions : List Clause}
    {issue : Issue}
    (hIssue : issue ∈ checker.checkConditions conditions)
    (hAccess : issue.isOnAccess = true) :
    ∃ clause ∈ conditions, ∃ base attr place depth,
      (Expr.getAttr base attr).Occurs clause.body ∧
        issue ∈ (checker.accessAttr base attr
          (checker.check place depth base).1).2 := by
  rw [checkConditions_eq_limitOnce] at hIssue
  have hClauses := mem_of_mem_limitOnce hIssue
  rw [checkClauses_eq] at hClauses
  rcases List.mem_flatMap.mp hClauses with ⟨checked, hChecked, hMem⟩
  rcases exists_of_mem_checkParts hChecked with ⟨e, hBody, place, rfl⟩
  rcases List.mem_map.mp hBody with ⟨clause, hClause, rfl⟩
  rcases List.mem_append.mp hMem with hFound | hTy
  · exact ⟨clause, hClause, exists_access_of_check hFound hAccess⟩
  · have hFinds := checker.findsElsewhere_notOnAccess
    rw [hFinds.conditionIssues _ issue hTy] at hAccess
    cases hAccess

/- A suggested attribute is one of those that are declared. -/
theorem cases_of_attrOf
    {record : RecordType}
    {access other : AttributeAccess}
    {name : String}
    (hIssue :
      .unsafeAccess access (some name) ∈ (attrOf record other).2) :
    access = other ∧ record.isOpen = false ∧ name ∈ record.names := by
  unfold attrOf at hIssue
  split at hIssue
  · cases hIssue
  · split at hIssue
    · cases hIssue
    · rename_i hClosed
      have hSame := List.mem_singleton.mp hIssue
      rcases Issue.unsafeAccess.inj hSame with ⟨rfl, hClosest⟩
      refine ⟨rfl, ?_, Text.mem_of_closest hClosest.symm⟩
      exact Bool.eq_false_of_not_eq_true hClosed

/-
  A suggested attribute is declared for the entity type, or
  for a record type that allows no others.
-/
theorem cases_of_accessAttr
    {base : Expr}
    {attr name : String}
    {access : AttributeAccess}
    {ty : Ty}
    (hIssue :
      .unsafeAccess access (some name) ∈
        (checker.accessAttr base attr ty).2) :
    (∃ type info,
      access = .entity type attr ∧
        checker.schema.entityType? type = some info ∧
        name ∈ info.shape.names) ∨
      ∃ record,
        ty = .record record ∧
          access = checker.recordAccess base attr ∧
          record.isOpen = false ∧
          name ∈ record.names := by
  unfold accessAttr at hIssue
  split at hIssue
  · cases hIssue
  · cases hIssue
  · cases hIssue
  · rename_i type
    split at hIssue
    · rename_i info hInfo
      rcases cases_of_attrOf hIssue with ⟨rfl, _, hName⟩
      exact Or.inl ⟨type, info, rfl, hInfo, hName⟩
    · split at hIssue
      · have hSame := List.mem_singleton.mp hIssue
        cases (Issue.unsafeAccess.inj hSame).2
      · cases List.mem_singleton.mp hIssue
  · rename_i record
    rcases cases_of_attrOf hIssue with ⟨rfl, hClosed, hName⟩
    exact Or.inr ⟨record, rfl, rfl, hClosed, hName⟩
  · cases List.mem_singleton.mp hIssue

/- Attributes of the context belong to the action, if it is known. -/
theorem cases_of_recordAccess
    (checker : Checker)
    (base : Expr)
    (attr : String) :
    (∃ action,
      base = .var .context ∧
        checker.env.actionUid = some action ∧
        checker.recordAccess base attr = .context action attr) ∨
      checker.recordAccess base attr = .record attr := by
  unfold recordAccess
  split
  · rename_i action hPinned
    exact Or.inl ⟨action, rfl, hPinned, rfl⟩
  · exact Or.inr rfl

end Checker

------------------------------------------------------------
-- Policies
------------------------------------------------------------

namespace Validator

/-
  An attribute is offered where an access looks for one: in
  the shape of an entity type, in the context of an action,
  or in the record type of what an access of the policy is
  on. If this is the context under several actions, all of
  them declare the attribute.
-/
def BacksAttr
    (validator : Validator)
    (guard : Guard)
    (policy : Policy)
    (name : String) : AttributeAccess → Prop
  | .entity type _ =>
      ∃ info,
        validator.schema.entityType? type = some info ∧
          name ∈ info.shape.names
  | .context action _ =>
      ∃ info,
        validator.schema.action? action = some info ∧
          name ∈ info.context.names
  | .record attr =>
      ∃ clause ∈ policy.conditions, ∃ base place depth record,
        (Expr.getAttr base attr).Occurs clause.body ∧
          ((validator.checker guard policy).check place depth
            base).1 = .record record ∧
          name ∈ record.names ∧
          (base = .var .context →
            ∀ info ∈ validator.schema.candidates policy.action,
              name ∈ info.context.names)

/- What is suggested with an issue of a policy is backed. -/
def Backs
    (validator : Validator)
    (guard : Guard)
    (policy : Policy) : Issue → Prop
  | .unrecognizedEntityType _ (some name) =>
      ⟨name⟩ ∈ validator.schema.typeNames
  | .unrecognizedAction uid (some hint) =>
      validator.schema.BacksHint uid hint
  | .unsafeAccess access (some name) =>
      validator.BacksAttr guard policy name access
  | _ => True

variable {validator : Validator} {guard : Guard} {policy : Policy}

theorem backs_unrecognizedType
    (type : EntityType) :
    validator.Backs guard policy
      (validator.schema.unrecognizedType type) := by
  unfold Schema.unrecognizedType
  cases hSuggest : validator.schema.suggestType? type with
  | none => trivial
  | some name => exact Schema.mem_typeNames_of_suggestType? hSuggest

theorem backs_unrecognizedAction
    (uid : EntityUid) :
    validator.Backs guard policy
      (validator.schema.unrecognizedAction uid) := by
  unfold Schema.unrecognizedAction
  cases hSuggest : validator.schema.suggestAction? uid with
  | none => trivial
  | some hint => exact Schema.backsHint_of_suggestAction? hSuggest

/- A closed context under a single action is that of the action. -/
theorem exists_action_of_pinned
    {action : EntityUid}
    (hPinned :
      (Env.ofPolicy validator.schema policy).actionUid = some action)
    (hClosed :
      (Env.ofPolicy validator.schema policy).context.isOpen = false) :
    ∃ info,
      validator.schema.action? action = some info ∧
        (Env.ofPolicy validator.schema policy).context =
          info.context := by
  have hAction : policy.action = .eq action := by
    change Env.pinnedAction? policy.action = some action at hPinned
    cases hConstraint : policy.action with
    | eq uid =>
        rw [hConstraint] at hPinned
        rw [Option.some.inj hPinned]
    | _ =>
        rw [hConstraint] at hPinned
        cases hPinned
  have hContext :
      (Env.ofPolicy validator.schema policy).context =
        commonContext
          ((validator.schema.action? action).toList.map
            ActionInfo.context) := by
    simp only [Env.ofPolicy, hAction, Schema.candidates]
  rw [hContext] at hClosed ⊢
  cases hInfo : validator.schema.action? action with
  | none =>
      rw [hInfo] at hClosed
      cases hClosed
  | some info => exact ⟨info, rfl, rfl⟩

/- The variable for the context has the type of the context. -/
theorem eq_context_of_check
    {place : Position}
    {depth : Nat}
    {record : RecordType}
    (hType :
      ((validator.checker guard policy).check place depth
        (.var .context)).1 = .record record) :
    record = (Env.ofPolicy validator.schema policy).context := by
  cases hGuard : (validator.checker guard policy).guard place with
  | true =>
      rw [Checker.check_of_guard hGuard] at hType
      cases hType
  | false =>
      rw [Checker.check_eq hGuard] at hType
      exact (Ty.record.inj hType).symm

/- An attribute that is suggested in a condition is declared. -/
theorem backsAttr_of_mem
    {access : AttributeAccess}
    {name : String}
    (hIssue :
      .unsafeAccess access (some name) ∈
        (validator.checker guard policy).checkConditions
          policy.conditions) :
    validator.BacksAttr guard policy name access := by
  rcases Checker.exists_access_of_checkConditions hIssue rfl with
    ⟨clause, hClause, base, attr, place, depth, hOccurs, hFound⟩
  rcases Checker.cases_of_accessAttr hFound with
    ⟨type, info, rfl, hInfo, hName⟩ |
      ⟨record, hType, rfl, hClosed, hName⟩
  · exact ⟨info, hInfo, hName⟩
  · rcases (validator.checker guard policy).cases_of_recordAccess
      base attr with ⟨action, rfl, hPinned, hAccess⟩ | hAccess
    · rw [eq_context_of_check hType] at hClosed hName
      rcases exists_action_of_pinned hPinned hClosed with
        ⟨info, hInfo, hSame⟩
      rw [hSame] at hName
      rw [hAccess]
      exact ⟨info, hInfo, hName⟩
    · rw [hAccess]
      refine
        ⟨clause, hClause, base, place, depth, record, hOccurs, hType,
          hName, ?_⟩
      intro hVar info hInfo
      rw [hVar] at hType
      rw [eq_context_of_check hType] at hName
      exact
        names_commonContext_subset (List.mem_map_of_mem hInfo) name
          hName

/-
  What is found in conditions is on an attribute access, or
  what is suggested with it is backed.
-/
theorem emits_backed :
    (validator.checker guard policy).Emits fun issue =>
      issue.isOnAccess = true ∨
        validator.Backs guard policy issue where
  literal := by
    intro value issue hIssue
    rcases Checker.exists_of_mem_checkLiteral hIssue with ⟨uid, rfl⟩
    exact Or.inr (backs_unrecognizedAction uid)
  call := by
    intro function args types issue hIssue
    have hCall :=
      Checker.checkCall_onCall function args types issue hIssue
    cases issue with
    | unexpectedType expected actual hint => exact Or.inr trivial
    | wrongArgumentCount function expected actual =>
        exact Or.inr trivial
    | invalidLiteral kind literal reason => exact Or.inr trivial
    | _ => cases hCall
  unexpected := fun _ _ _ => Or.inr trivial
  operand := fun _ _ => Or.inr trivial
  incompatible := fun _ _ _ => Or.inr trivial
  access := by
    intro base attr ty issue hIssue
    have hAccess :=
      Checker.accessAttr_onAccess _ base attr ty issue hIssue
    exact Or.inl hAccess
  limit := Or.inr trivial
  level := by
    intro level issue hIssue
    rcases Checker.exists_of_mem_levelIssues hIssue with
      ⟨allowed, rfl⟩
    exact Or.inr trivial

/- Whatever is suggested with an issue of a policy is backed. -/
theorem backs_of_mem_policyIssues
    {issue : Issue}
    (hIssue : issue ∈ validator.policyIssues guard policy) :
    validator.Backs guard policy issue := by
  unfold policyIssues at hIssue
  split at hIssue
  · rcases List.mem_append.mp hIssue with hPreliminary | hCondition
    · exact
        validator.schema.forall_preliminary policy
          backs_unrecognizedType backs_unrecognizedAction
          (fun _ => trivial) issue hPreliminary
    · rcases emits_backed.checkConditions policy.conditions issue
        hCondition with hAccess | hBacked
      · cases issue with
        | unsafeAccess access suggestion =>
            cases suggestion with
            | none => trivial
            | some name => exact backsAttr_of_mem hCondition
        | undeclaredTypeAccess type attr => trivial
        | accessOnNonRecord attr actual => trivial
        | _ => cases hAccess
      · exact hBacked
  · rw [List.mem_singleton.mp hIssue]
    trivial

end Validator

------------------------------------------------------------
-- Entities
------------------------------------------------------------

/- The types suggested with a finding about an entity are declared. -/
def Schema.BacksFinding
    (schema : Schema) : Finding → Prop
  | .unexpectedType types => ∀ type ∈ types, type ∈ schema.typeNames
  | _ => True

theorem Schema.backsFinding_of_mem
    {schema : Schema}
    {mode : Mode}
    {entity : Entity}
    {finding : Finding}
    (hFinding : finding ∈ schema.checkEntity mode entity) :
    schema.BacksFinding finding := by
  unfold checkEntity at hFinding
  dsimp only at hFinding
  split at hFinding
  · cases hFinding
  · split at hFinding
    · rw [List.mem_singleton.mp hFinding]
      intro type hType
      exact mem_typeNames_of_suggestTypes hType
    · rcases List.mem_append.mp hFinding with hFault | hAncestor
      · rcases List.mem_map.mp hFault with ⟨fault, _, rfl⟩
        trivial
      · rcases List.mem_map.mp hAncestor with ⟨type, _, rfl⟩
        trivial

------------------------------------------------------------
-- Suggestions
------------------------------------------------------------

/-
  Every diagnostic of a policy, and every finding about an
  entity, suggests only what exists: types and attributes
  always, actions with the type in their id always, and other
  actions if the type that was written has such an action.
-/
theorem suggestions_name_what_exists
    (validator : Validator)
    (guard : Guard)
    (policies : List Policy)
    (entities : List Entity) :
    (∀ diagnostic ∈ validator.validatePolicies guard policies,
      ∃ policy ∈ policies,
        diagnostic.policy = policy.id ∧
          validator.Backs guard policy diagnostic.issue) ∧
      ∀ finding ∈ validator.validateEntities entities,
        validator.schema.BacksFinding finding.2 := by
  constructor
  · intro diagnostic hDiagnostic
    rcases List.mem_flatMap.mp hDiagnostic with
      ⟨policy, hPolicy, hIssues⟩
    rcases List.mem_map.mp hIssues with ⟨issue, hIssue, rfl⟩
    exact
      ⟨policy, hPolicy, rfl,
        Validator.backs_of_mem_policyIssues hIssue⟩
  · intro finding hFinding
    rcases List.mem_flatMap.mp hFinding with ⟨entity, _, hFound⟩
    rcases List.mem_map.mp hFound with ⟨found, hMem, rfl⟩
    exact Schema.backsFinding_of_mem hMem

/- The schema of an application for photos, whose users have names. -/
def photoSchema : Schema :=
  ⟨[(⟨"PhotoApp::Photo"⟩, ⟨⟨"PhotoApp::Photo"⟩, .anything, []⟩),
      (⟨"PhotoApp::User"⟩,
        ⟨⟨"PhotoApp::User"⟩,
          ⟨[("name", ⟨.string, true⟩)], .closedAttributes⟩, []⟩)],
    [(⟨⟨"PhotoApp::Action"⟩, "view"⟩,
      ⟨⟨⟨"PhotoApp::Action"⟩, "view"⟩, [⟨"PhotoApp::User"⟩],
        [⟨"PhotoApp::Photo"⟩], .anything, []⟩)],
    []⟩

/- A policy on viewing for users with a name, with two typos. -/
def photoTypos : Policy :=
  ⟨⟨"typos"⟩, .permit, .is ⟨"PhotoApp::User"⟩,
    .eq ⟨⟨"PhotoApp::Action"⟩, "veiw"⟩, .any,
    [⟨.when, .getAttr (.var .principal) "nme"⟩]⟩

/- A user whose type has no namespace. -/
def photoUser : Entity :=
  ⟨⟨⟨"User"⟩, "ann"⟩, [], []⟩

/- The action, the attribute and the type that are meant exist. -/
theorem photoTypos_backed :
    (Validator.mk photoSchema default).validatePolicies Guard.never
        [photoTypos] =
        [⟨⟨"typos"⟩,
          .unrecognizedAction ⟨⟨"PhotoApp::Action"⟩, "veiw"⟩
            (some (.alternative "PhotoApp::Action::\"view\""))⟩,
        ⟨⟨"typos"⟩,
          .unsafeAccess (.entity ⟨"PhotoApp::User"⟩ "nme")
            (some "name")⟩] ∧
      (Validator.mk photoSchema default).validateEntities [photoUser] =
        [(⟨⟨"User"⟩, "ann"⟩, .unexpectedType [⟨"PhotoApp::User"⟩])] ∧
      photoSchema.BacksHint ⟨⟨"PhotoApp::Action"⟩, "veiw"⟩
        (.alternative "PhotoApp::Action::\"view\"") ∧
      (∃ info,
        photoSchema.entityType? ⟨"PhotoApp::User"⟩ = some info ∧
          "name" ∈ info.shape.names) ∧
      ⟨"PhotoApp::User"⟩ ∈ photoSchema.typeNames := by
  have hPolicies :
      (Validator.mk photoSchema default).validatePolicies Guard.never
          [photoTypos] =
        [⟨⟨"typos"⟩,
          .unrecognizedAction ⟨⟨"PhotoApp::Action"⟩, "veiw"⟩
            (some (.alternative "PhotoApp::Action::\"view\""))⟩,
        ⟨⟨"typos"⟩,
          .unsafeAccess (.entity ⟨"PhotoApp::User"⟩ "nme")
            (some "name")⟩] := by
    decide +kernel
  have hEntities :
      (Validator.mk photoSchema default).validateEntities [photoUser] =
        [(⟨⟨"User"⟩, "ann"⟩,
          .unexpectedType [⟨"PhotoApp::User"⟩])] := by
    decide +kernel
  rcases suggestions_name_what_exists (Validator.mk photoSchema default)
      Guard.never [photoTypos] [photoUser] with
    ⟨hBacked, hFindings⟩
  rw [hPolicies] at hBacked
  rw [hEntities] at hFindings
  rcases hBacked _ List.mem_cons_self with ⟨_, _, _, hAction⟩
  rcases hBacked _ (List.mem_cons_of_mem _ List.mem_cons_self) with
    ⟨_, _, _, hAttr⟩
  exact
    ⟨hPolicies, hEntities, hAction, hAttr,
      hFindings _ List.mem_cons_self _ List.mem_cons_self⟩

/- The application as a document. -/
def photoDocument : Json :=
  .obj [("PhotoApp", .obj [
    ("entityTypes", .obj [
      ("Photo", .obj []),
      ("User", .obj [("shape", .obj [
        ("type", .str "Record"),
        ("attributes", .obj [
          ("name", .obj [("type", .str "String")])])])])]),
    ("actions", .obj [("view", .obj [("appliesTo", .obj [
      ("principalTypes", .arr [.str "User"]),
      ("resourceTypes", .arr [.str "Photo"])])])])])]

/- A policy on viewing, where the action has no namespace. -/
def photoViewing : Policy :=
  ⟨⟨"viewing"⟩, .permit, .any, .eq ⟨⟨"Action"⟩, "view"⟩, .any, []⟩

/-
  Instead of the action of the application, the undeclared
  action itself is suggested.
-/
theorem photoViewing_suggests_itself :
    ∃ fragment,
      Fragment.ofJson photoDocument = .ok fragment ∧
        Schema.build false [fragment] = .ok photoSchema ∧
        (Validator.mk photoSchema default).validatePolicies
            Guard.never [photoViewing] =
          [⟨⟨"viewing"⟩,
            .unrecognizedAction ⟨⟨"Action"⟩, "view"⟩
              (some (.alternative "Action::\"view\""))⟩] ∧
        ¬ photoSchema.DisplaysAction "Action::\"view\"" := by
  have hPolicies :
      (Validator.mk photoSchema default).validatePolicies
          Guard.never [photoViewing] =
        [⟨⟨"viewing"⟩,
          .unrecognizedAction ⟨⟨"Action"⟩, "view"⟩
            (some (.alternative "Action::\"view\""))⟩] := by
    decide +kernel
  refine ⟨_, rfl, rfl, hPolicies, ?_⟩
  intro hDisplays
  rcases hDisplays with ⟨uid, ⟨info, hMem, hName⟩, hText⟩
  rw [← hName, List.mem_singleton.mp hMem] at hText
  revert hText
  decide +kernel

end PolicyCheck
