import PolicyCheck.Proofs.Mentions

/-
  When a policy is judged alike by two schemas, or in two
  action scopes. Scopes are judged by the entity types and
  by the actions that apply, in whatever order these come.
  Two checkers say the same of a condition if they agree on
  the literals and variables that occur in it: all other
  checks look at entity types only.

  Main declarations:
    * `Schema.SameTypes`
    * `Schema.SameTypes.congr`
    * `Schema.applicationIssue?_congr`
    * `Checker.Agree`
    * `Checker.AgreeOn`
    * `Checker.Agree.verdict`
    * `Checker.Agree.check`
    * `Checker.Agree.checkConditions`
    * `Validator.validatePolicies_singleton`
-/

namespace PolicyCheck

------------------------------------------------------------
-- Schemas With The Same Types
------------------------------------------------------------

namespace Schema

/- Two schemas declare the same entity types. -/
def SameTypes
    (first second : Schema) : Prop :=
  first.entityTypes = second.entityTypes

/- A schema without its actions and common types. -/
def typesOnly
    (schema : Schema) : Schema :=
  ⟨schema.entityTypes, [], []⟩

/-
  A question that is answered without the actions and the
  common types has the same answer in schemas with the same
  entity types.
-/
theorem SameTypes.congr
    {β : Type}
    {first second : Schema}
    (hTypes : first.SameTypes second)
    (question : Schema → β)
    (hQuestion :
      ∀ schema, question schema = question schema.typesOnly) :
    question first = question second := by
  have hOnly : first.typesOnly = second.typesOnly := by
    unfold typesOnly
    rw [hTypes]
  rw [hQuestion first, hOnly, ← hQuestion second]

------------------------------------------------------------
-- Scopes
------------------------------------------------------------

/-
  Whether an application is impossible, and why, depends on
  which actions apply and on what they allow, but not on
  the order of the actions.
-/
theorem applicationIssue?_congr
    {first second : Schema}
    {policy other : Policy}
    (hAllows : first.scopeAllows = second.scopeAllows)
    (hPrincipal : policy.principal = other.principal)
    (hResource : policy.resource = other.resource)
    (hSame :
      ∀ info, info ∈ first.applicable policy.action ↔
        info ∈ second.applicable other.action) :
    first.applicationIssue? policy =
      second.applicationIssue? other := by
  unfold applicationIssue?
  simp only [hAllows, hPrincipal, hResource,
    any_eq_of_mem_iff hSame, isEmpty_eq_of_mem_iff hSame]

end Schema

------------------------------------------------------------
-- Agreement
------------------------------------------------------------

namespace Checker

/-
  Two checkers have the same entity types, pinned action,
  limit and guard.
-/
structure Agree
    (first second : Checker) : Prop where
  types : first.schema.SameTypes second.schema
  pinned : first.env.actionUid = second.env.actionUid
  level : first.maxLevel = second.maxLevel
  guard : first.guard = second.guard

/- Two checkers say the same of an expression without parts. -/
def AgreeOn
    (first second : Checker) : Expr → Prop
  | .lit value => first.checkLiteral value = second.checkLiteral value
  | .var name => first.varTy name = second.varTy name
  | _ => True

/- Two checkers agree on all that occurs in an expression. -/
def AgreeWithin
    (first second : Checker)
    (e : Expr) : Prop :=
  ∀ part : Expr, part.Occurs e → first.AgreeOn second part

variable {first second : Checker}

/- Agreement on an expression is agreement on itself. -/
theorem AgreeWithin.self
    {e : Expr}
    (hWithin : first.AgreeWithin second e) :
    first.AgreeOn second e :=
  hWithin e .refl

/- Agreement on an expression is agreement on its parts. -/
theorem AgreeWithin.part
    {part e : Expr}
    (hWithin : first.AgreeWithin second e)
    (hPart : part.IsPart e) :
    first.AgreeWithin second part := by
  intro other hOccurs
  exact hWithin other (hOccurs.tail hPart)

namespace Agree

------------------------------------------------------------
-- Local Checks
------------------------------------------------------------

/- Operators look at entity types only. -/
theorem checkBinary
    (hAgree : first.Agree second)
    (op : BinaryOp)
    (a b : Ty) :
    first.schema.checkBinary op a b =
      second.schema.checkBinary op a b :=
  hAgree.types.congr (fun schema => schema.checkBinary op a b)
    fun _ => rfl

/- Levels are judged by the limit. -/
theorem levelIssues
    (hAgree : first.Agree second)
    (level : Nat) :
    first.levelIssues level = second.levelIssues level := by
  unfold Checker.levelIssues
  rw [hAgree.level]

/- Accesses look at entity types and the pinned action. -/
theorem accessAttr
    (hAgree : first.Agree second)
    (base : Expr)
    (attr : String)
    (ty : Ty) :
    first.accessAttr base attr ty =
      second.accessAttr base attr ty := by
  have hType :
      ∀ type,
        first.schema.entityType? type =
          second.schema.entityType? type := by
    intro type
    exact
      hAgree.types.congr (fun schema => schema.entityType? type)
        fun _ => rfl
  cases ty with
  | entity type => simp only [Checker.accessAttr, hType]
  | record record =>
      simp only [Checker.accessAttr, Checker.recordAccess,
        hAgree.pinned]
  | _ => rfl

------------------------------------------------------------
-- Expressions
------------------------------------------------------------

/-
  Verdicts look at entity types and the pinned action, apart
  from those on literals and variables.
-/
theorem verdict
    (hAgree : first.Agree second)
    {e : Expr}
    (hOn : first.AgreeOn second e)
    (types : List Ty) :
    first.verdict e types = second.verdict e types := by
  cases e with
  | lit value =>
      have hSame :
          first.checkLiteral value = second.checkLiteral value := hOn
      simp only [Checker.verdict, hSame]
  | var name =>
      have hSame : first.varTy name = second.varTy name := hOn
      simp only [Checker.verdict, hSame]
  | binary op left right =>
      simp only [Checker.verdict, hAgree.checkBinary]
  | getAttr base attr =>
      simp only [Checker.verdict, hAgree.accessAttr]
  | _ => rfl

/-
  Checkers that agree on the literals and variables of an
  expression give it the same type and the same issues.
-/
theorem check
    (hAgree : first.Agree second)
    (position : Position)
    (level : Nat)
    (e : Expr)
    (hWithin : first.AgreeWithin second e) :
    first.check position level e =
      second.check position level e := by
  induction e using Expr.parts_induction
    generalizing position level with
  | hStep e ih =>
      have hSame : first.guard position = second.guard position := by
        rw [hAgree.guard]
      cases hGuard : first.guard position with
      | true =>
          rw [check_of_guard hGuard,
            check_of_guard (hSame.symm.trans hGuard)]
      | false =>
          have hParts :
              first.checkParts position (e.levelBelow level) 0
                  e.children =
                second.checkParts position (e.levelBelow level) 0
                  e.children := by
            apply checkParts_congr
            intro place part hPart
            have hMem := List.mem_of_getElem? hPart
            exact ih part hMem _ _
              (hWithin.part (Expr.isPart_iff.mpr hMem))
          rw [check_eq hGuard, check_eq (hSame.symm.trans hGuard),
            hParts, assemble, assemble, accessIssues, accessIssues,
            hAgree.levelIssues, hAgree.verdict hWithin.self]

------------------------------------------------------------
-- Conditions
------------------------------------------------------------

/- The same for a list of conditions. -/
theorem checkClauses
    (hAgree : first.Agree second)
    (index : Nat)
    {clauses : List Clause}
    (hWithin :
      ∀ clause ∈ clauses, first.AgreeWithin second clause.body) :
    first.checkClauses index clauses =
      second.checkClauses index clauses := by
  rw [checkClauses_eq, checkClauses_eq, checkParts_congr]
  intro place e hFound
  rcases List.mem_map.mp (List.mem_of_getElem? hFound) with
    ⟨clause, hMem, rfl⟩
  exact hAgree.check _ 0 clause.body (hWithin clause hMem)

/-
  Checkers that agree on the literals and variables of the
  conditions of a policy find the same issues in them.
-/
theorem checkConditions
    (hAgree : first.Agree second)
    {conditions : List Clause}
    (hWithin :
      ∀ clause ∈ conditions,
        first.AgreeWithin second clause.body) :
    first.checkConditions conditions =
      second.checkConditions conditions := by
  unfold Checker.checkConditions
  rw [hAgree.checkClauses 0 hWithin]

end Agree

end Checker

------------------------------------------------------------
-- Policies
------------------------------------------------------------

/- What is reported of a single policy are its issues. -/
theorem Validator.validatePolicies_singleton
    (validator : Validator)
    (guard : Guard)
    (policy : Policy) :
    validator.validatePolicies guard [policy] =
      (validator.policyIssues guard policy).map
        (Diagnostic.mk policy.id) := by
  rw [validatePolicies, List.flatMap_singleton]

end PolicyCheck
