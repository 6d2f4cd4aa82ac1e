import PolicyCheck.Data.Distinct
import PolicyCheck.Expr.Traversal
import PolicyCheck.Policy
import PolicyCheck.Schema.Suggestion

/-
  This file checks the names that a policy mentions, and
  whether some action applies to principals and resources
  that its scope allows.

  Key definitions include:
    * `Schema.candidates`
    * `Schema.scopeAllows`
    * `Schema.typeIssues`
    * `Schema.actionIssues`
    * `Schema.applicationIssue?`
    * `Schema.scopeIssues`
-/

namespace PolicyCheck

namespace Schema

variable (schema : Schema)

------------------------------------------------------------
-- Candidates
------------------------------------------------------------

/-
  The declared actions that a request of a policy can have.
  Groups come in the order in which they are named.
-/
def candidates : ActionConstraint → List ActionInfo
  | .any => schema.actionInfos
  | .eq uid => (schema.action? uid).toList
  | constraint =>
      distinctBy ActionInfo.name
        (constraint.uids.flatMap schema.actionsIn)

/- The candidates that apply to principals and resources. -/
def applicable
    (constraint : ActionConstraint) : List ActionInfo :=
  (schema.candidates constraint).filter schema.hasValidAppliesTo

/-
  A constraint is satisfied by some entity of one of the
  allowed types, as far as types can tell.
-/
def scopeAllows
    (constraint : ScopeConstraint)
    (allowed : List EntityType) : Bool :=
  match constraint with
  | .any => true
  | .eq uid => uid.type.isAction || allowed.contains uid.type
  | .is type => allowed.contains type
  | .isIn type _ => allowed.contains type
  | .mem uid =>
      allowed.contains uid.type ||
        allowed.any fun type => schema.canBeDescendant type uid.type

------------------------------------------------------------
-- Entity Types
------------------------------------------------------------

/- A type on its own, unless it is declared. -/
def unlessDeclared
    (type : EntityType) : List EntityType :=
  if schema.knowsType type then [] else [type]

/- A type on its own, unless it is declared or one of actions. -/
def unlessKnown
    (type : EntityType) : List EntityType :=
  if schema.knowsTypeOrAction type then [] else [type]

/-
  The types a constraint names that are not declared. The
  types of entities may be types of actions instead.
-/
def unknownTypes : ScopeConstraint → List EntityType
  | .any => []
  | .eq uid => schema.unlessKnown uid.type
  | .mem uid => schema.unlessKnown uid.type
  | .is type => schema.unlessDeclared type
  | .isIn type uid =>
      schema.unlessDeclared type ++ schema.unlessKnown uid.type

/-
  The types the conditions of a policy mention that are
  neither declared nor types of actions, each once.
-/
def unknownConditionTypes
    (policy : Policy) : List EntityType :=
  let mentioned :=
    policy.conditions.flatMap fun clause =>
      clause.body.subexpressions.filterMap Expr.mentionedType?
  distinct
    (mentioned.filter fun type => !schema.knowsTypeOrAction type)

/- The issues with the entity types of a policy. -/
def typeIssues
    (policy : Policy) : List Issue :=
  (schema.unknownTypes policy.principal ++
    schema.unknownTypes policy.resource ++
    schema.unknownConditionTypes policy).map schema.unrecognizedType

------------------------------------------------------------
-- Actions
------------------------------------------------------------

/- The issues with actions that are named as groups. -/
def groupIssues
    (constraint : ActionConstraint) : List Issue :=
  if constraint.uids.isEmpty then [.impossible .emptyActionSet]
  else
    let unknown :=
      constraint.uids.filter fun uid => !schema.knowsAction uid
    unknown.map schema.unrecognizedAction ++
      if (schema.applicable constraint).isEmpty then
        [.impossible .noListedActionApplies]
      else
        []

/-
  The issues with the actions of a scope: actions that are
  not declared, and scopes in which no action applies.
-/
def actionIssues : ActionConstraint → List Issue
  | .any => []
  | .eq uid =>
      match schema.action? uid with
      | none => [schema.unrecognizedAction uid]
      | some action =>
          if schema.hasValidAppliesTo action then []
          else [.impossible (.actionWithoutAppliesTo uid)]
  | constraint => schema.groupIssues constraint

------------------------------------------------------------
-- Applications
------------------------------------------------------------

end Schema

/- Why one side of a scope is not satisfied under any action. -/
def ScopeConstraint.sideFailure
    (side : ScopeSide) : ScopeConstraint → Impossibility
  | .mem uid => .inTargetUnreachable side uid.type
  | _ => .scopeTypeNotAllowed side

/-
  Why neither side of a scope is satisfied under any
  action. A constraint to be in an entity is blamed first.
-/
def ScopeConstraint.bothFailure
    (principal resource : ScopeConstraint) : Impossibility :=
  match principal, resource with
  | .mem _, _ => principal.sideFailure .principal
  | _, .mem _ => resource.sideFailure .resource
  | _, _ => .scopeTypeNotAllowed .both

namespace Schema

variable (schema : Schema)

/-
  Why no action that applies at all applies to principals
  and resources that the scope allows. Scopes without such
  an action have an issue already.
-/
def applicationIssue?
    (policy : Policy) : Option Impossibility :=
  let actions := schema.applicable policy.action
  let principalOk (action : ActionInfo) : Bool :=
    schema.scopeAllows policy.principal action.principals
  let resourceOk (action : ActionInfo) : Bool :=
    schema.scopeAllows policy.resource action.resources
  if actions.isEmpty then none
  else if actions.any fun a => principalOk a && resourceOk a then none
  else
    match actions.any principalOk, actions.any resourceOk with
    | true, true => some .unsupportedCombination
    | false, true => some (policy.principal.sideFailure .principal)
    | true, false => some (policy.resource.sideFailure .resource)
    | false, false =>
        some (policy.principal.bothFailure policy.resource)

/- All issues with the scope of a policy and the types it names. -/
def scopeIssues
    (policy : Policy) : List Issue :=
  schema.typeIssues policy ++
    schema.actionIssues policy.action ++
    (schema.applicationIssue? policy).toList.map .impossible

end Schema

end PolicyCheck
