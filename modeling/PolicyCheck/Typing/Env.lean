import PolicyCheck.Scope

/-
  This file defines what the conditions of a policy can
  rely on: the types of the variables of all requests that
  its scope lets through.

  Key definitions include:
    * `Env`
    * `scopeVarTy`
    * `commonContext`
    * `Env.ofPolicy`
-/

namespace PolicyCheck

/-
  The types of the variables of a request, and the action
  if the scope names a single one.
-/
structure Env where
  principal : Ty
  action : Ty
  actionUid : Option EntityUid
  resource : Ty
  context : RecordType
deriving Repr

/-
  The type of the principal or the resource. Where the
  scope does not decide it, it is the only type that the
  actions allow, if there is only one.
-/
def scopeVarTy
    (constraint : ScopeConstraint)
    (allowed : List EntityType) : Ty :=
  match constraint with
  | .eq uid => .entity uid.type
  | .is type => .entity type
  | .isIn type _ => .entity type
  | _ =>
      match distinct allowed with
      | [type] => .entity type
      | _ => .anyEntity

/- What the contexts of actions have in common. -/
def commonContext : List RecordType → RecordType
  | [] => .anything
  | first :: rest => rest.foldl Ty.intersect first

namespace Env

/- The type of the variable for the action. -/
def actionTy : ActionConstraint → Ty
  | .eq uid => .entity uid.type
  | _ => .entity EntityType.action

/- The action that a scope names, if it names a single one. -/
def pinnedAction? : ActionConstraint → Option EntityUid
  | .eq uid => some uid
  | _ => none

/- What the conditions of a policy can rely on. -/
def ofPolicy
    (schema : Schema)
    (policy : Policy) : Env :=
  let candidates := schema.candidates policy.action
  let applicable := schema.applicable policy.action
  ⟨scopeVarTy policy.principal
      (applicable.flatMap ActionInfo.principals),
    actionTy policy.action,
    pinnedAction? policy.action,
    scopeVarTy policy.resource
      (applicable.flatMap ActionInfo.resources),
    commonContext (candidates.map ActionInfo.context)⟩

end Env

end PolicyCheck
