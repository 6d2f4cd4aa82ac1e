import PolicyCheck.Expr.Basic

/-
  This file lists the subexpressions of an expression, each
  before its own parts and the last part first. The walk
  keeps the expressions that are still to be visited on a
  stack, so that its depth does not depend on the nesting
  of the expression.

  Key definitions include:
    * `Expr.weight`
    * `Expr.listWeight`
    * `Expr.visit`
    * `Expr.subexpressions`
-/

namespace PolicyCheck

namespace Expr

------------------------------------------------------------
-- Weights
------------------------------------------------------------

mutual

/- The number of subexpressions of an expression. -/
def weight : Expr → Nat
  | .lit _ => 1
  | .var _ => 1
  | .ite test yes no => 1 + (weight test + (weight yes + weight no))
  | .and left right => 1 + (weight left + weight right)
  | .or left right => 1 + (weight left + weight right)
  | .unary _ arg => 1 + weight arg
  | .binary _ left right => 1 + (weight left + weight right)
  | .call _ args => 1 + listWeight args
  | .getAttr base _ => 1 + weight base
  | .hasAttr base _ => 1 + weight base
  | .like arg _ => 1 + weight arg
  | .is arg _ => 1 + weight arg
  | .isIn arg _ group => 1 + (weight arg + weight group)
  | .set elements => 1 + listWeight elements
  | .record fields => 1 + fieldsWeight fields

/- The number of subexpressions of the expressions of a list. -/
def listWeight : List Expr → Nat
  | [] => 0
  | e :: es => weight e + listWeight es

/- The number of subexpressions of the fields of a record. -/
def fieldsWeight : List (String × Expr) → Nat
  | [] => 0
  | (_, e) :: rest => weight e + fieldsWeight rest

end

/- The weight of fields is that of their values together. -/
theorem fieldsWeight_eq_listWeight
    (fields : List (String × Expr)) :
    fieldsWeight fields = listWeight (fields.map Prod.snd) := by
  induction fields with
  | nil => rfl
  | cons field rest ih => simp [fieldsWeight, listWeight, ih]

/- An expression weighs one more than its direct parts. -/
theorem weight_eq
    (e : Expr) :
    weight e = 1 + listWeight e.children := by
  cases e <;>
    simp [weight, children, listWeight, fieldsWeight_eq_listWeight]

/- The weight of two lists together. -/
theorem listWeight_append
    (es fs : List Expr) :
    listWeight (es ++ fs) = listWeight es + listWeight fs := by
  induction es with
  | nil => simp [listWeight]
  | cons e es ih =>
      simp only [List.cons_append, listWeight, ih]
      omega

/- Turning a list around does not change its weight. -/
theorem listWeight_reverse
    (es : List Expr) :
    listWeight es.reverse = listWeight es := by
  induction es with
  | nil => rfl
  | cons e es ih =>
      simp only [List.reverse_cons, listWeight_append, listWeight, ih]
      omega

------------------------------------------------------------
-- The Walk
------------------------------------------------------------

/-
  Visit the expressions on a stack. The parts of an
  expression are put onto the stack in order, so the last
  one is on top.
-/
def visit : List Expr → List Expr
  | [] => []
  | e :: stack => e :: visit (e.children.reverse ++ stack)
termination_by stack => listWeight stack
decreasing_by
  rw [listWeight_append, listWeight_reverse, listWeight, weight_eq]
  omega

/- All subexpressions of an expression, itself included. -/
def subexpressions
    (e : Expr) : List Expr :=
  visit [e]

end Expr

end PolicyCheck
