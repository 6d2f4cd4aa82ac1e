import PolicyCheck.Expr.Basic

/-
  This file defines policies: an effect, a scope that
  constrains the principal, the action and the resource of
  a request, and conditions.

  Key definitions include:
    * `Effect`
    * `ScopeConstraint`
    * `ActionConstraint`
    * `Clause`
    * `Policy`
-/

namespace PolicyCheck

------------------------------------------------------------
-- Scopes
------------------------------------------------------------

/- What a policy does when it is satisfied. -/
inductive Effect where
  | permit
  | forbid
deriving DecidableEq, Repr

/- The word for an effect. -/
def Effect.name : Effect → String
  | .permit => "permit"
  | .forbid => "forbid"

/-
  What a scope demands of the principal or the resource: to
  be an entity, to be in one, to be of a type, or to be of
  a type and in an entity.
-/
inductive ScopeConstraint where
  | any
  | eq (uid : EntityUid)
  | mem (uid : EntityUid)
  | is (type : EntityType)
  | isIn (type : EntityType) (uid : EntityUid)
deriving DecidableEq, Repr, Inhabited

/- The type a constraint names first. -/
def ScopeConstraint.type? : ScopeConstraint → Option EntityType
  | .any => none
  | .eq uid => some uid.type
  | .mem uid => some uid.type
  | .is type => some type
  | .isIn type _ => some type

/-
  What a scope demands of the action: to be an action, to
  be in a group, or to be in one of several groups.
-/
inductive ActionConstraint where
  | any
  | eq (uid : EntityUid)
  | mem (uid : EntityUid)
  | memSet (uids : List EntityUid)
deriving DecidableEq, Repr, Inhabited

/- The actions a constraint names. -/
def ActionConstraint.uids : ActionConstraint → List EntityUid
  | .any => []
  | .eq uid => [uid]
  | .mem uid => [uid]
  | .memSet uids => uids

------------------------------------------------------------
-- Policies
------------------------------------------------------------

/- Whether a condition has to hold or has to fail. -/
inductive ClauseKind where
  | when
  | unless
deriving DecidableEq, Repr

/- The word for a kind of clause. -/
def ClauseKind.name : ClauseKind → String
  | .when => "when"
  | .unless => "unless"

/- A condition of a policy. -/
structure Clause where
  kind : ClauseKind
  body : Expr
deriving Repr

/- A policy. -/
structure Policy where
  id : PolicyId
  effect : Effect
  principal : ScopeConstraint
  action : ActionConstraint
  resource : ScopeConstraint
  conditions : List Clause
deriving Repr

end PolicyCheck
