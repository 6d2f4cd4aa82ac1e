import PolicyCheck.Issue
import PolicyCheck.Policy

/-
  This file finds conditions whose value does not depend on
  the request. Only the left operand of a connective can
  decide it alone.

  Key definitions include:
    * `Expr.constant?`
    * `Clause.impossibility?`
    * `Policy.impossibleConditions`
-/

namespace PolicyCheck

/- The truth value that an expression always has, if one is found. -/
def Expr.constant? : Expr → Option Bool
  | .lit (.bool b) => some b
  | .unary .not arg => (constant? arg).map (!·)
  | .and left right =>
      match constant? left with
      | some false => some false
      | some true => constant? right
      | none => none
  | .or left right =>
      match constant? left with
      | some true => some true
      | some false => constant? right
      | none => none
  | .ite test yes no =>
      match constant? test with
      | some true => constant? yes
      | some false => constant? no
      | none =>
          match constant? yes, constant? no with
          | some a, some b => if a = b then some a else none
          | _, _ => none
  | _ => none

/- Why a clause can never be satisfied, if that is found. -/
def Clause.impossibility?
    (clause : Clause) : Option Impossibility :=
  match clause.kind, clause.body.constant? with
  | .when, some false => some .whenAlwaysFalse
  | .unless, some true => some .unlessAlwaysTrue
  | _, _ => none

/- Why the clauses of a policy can never be satisfied. -/
def Policy.impossibleConditions
    (policy : Policy) : List Impossibility :=
  policy.conditions.filterMap Clause.impossibility?

end PolicyCheck
