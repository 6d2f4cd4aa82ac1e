import PolicyCheck.Extension
import PolicyCheck.Typing.Env
import PolicyCheck.Typing.Operand

/-
  This file gives expressions their types and collects what
  is wrong on the way. Checking never stops at an issue: an
  operand of the wrong type is reported, and the result has
  the type that the operator promises.

  Nesting is guarded. A guard says at which positions the
  room for another level of nesting has run out; there the
  type is unknown, and the rest is not looked at.

  Key definitions include:
    * `Guard`
    * `Checker`
    * `Checker.checkCall`
    * `Checker.accessAttr`
    * `Checker.check`
    * `Checker.report`
    * `Checker.checkConditions`
-/

namespace PolicyCheck

------------------------------------------------------------
-- Guards And Checkers
------------------------------------------------------------

/-
  The position of an expression in the conditions of a
  policy: which part it is of its parent, of its parent's
  parent and so on, and at last of which condition.
-/
abbrev Position :=
  List Nat

/- Says at which positions there is no room to go deeper. -/
abbrev Guard :=
  Position → Bool

namespace Guard

/- There is always room. -/
def never : Guard :=
  fun _ => false

/- There is never room. -/
def always : Guard :=
  fun _ => true

end Guard

/-
  What checking depends on: the schema, the types of the
  variables, the longest chain of attribute accesses, where
  zero sets no limit, and the guard of nesting.
-/
structure Checker where
  schema : Schema
  env : Env
  maxLevel : UInt32
  guard : Guard

namespace Checker

variable (checker : Checker)

------------------------------------------------------------
-- Names
------------------------------------------------------------

/- The type of a literal. -/
def checkLiteral : Literal → Checked
  | .bool _ => (.bool, [])
  | .long _ => (.long, [])
  | .string _ => (.string, [])
  | .entity uid =>
      (.entity uid.type,
        if uid.type.isAction && !checker.schema.knowsAction uid then
          [checker.schema.unrecognizedAction uid]
        else
          [])

/- The type of a variable. -/
def varTy : Var → Ty
  | .principal => checker.env.principal
  | .action => checker.env.action
  | .resource => checker.env.resource
  | .context => .record checker.env.context

------------------------------------------------------------
-- Extension Functions
------------------------------------------------------------

/- The issues with arguments whose types are not expected. -/
def argumentIssues : List Ty → List Ty → List Issue
  | expected :: es, actual :: as =>
      (if Ty.fits expected actual then []
        else [.unexpectedType expected actual none]) ++
        argumentIssues es as
  | _, _ => []

/- The issue with a literal that a constructor refuses. -/
def literalIssues
    (constructs : Option ExtensionKind) : List Expr → List Issue
  | [.lit (.string text)] =>
      match constructs with
      | some kind =>
          match kind.literalError? text with
          | some reason => [.invalidLiteral kind text reason]
          | none => []
      | none => []
  | _ => []

/-
  The type of a call with arguments of types. Nothing is
  known of a function that does not exist, and no argument
  is looked at where their number is wrong.
-/
def checkCall
    (function : String)
    (args : List Expr)
    (types : List Ty) : Checked :=
  match Signature.find? function with
  | none => (.unknown, [])
  | some signature =>
      if signature.args.length ≠ args.length then
        (signature.result,
          [.wrongArgumentCount function
            signature.args.length args.length])
      else
        (signature.result,
          argumentIssues signature.args types ++
            literalIssues signature.constructs args)

------------------------------------------------------------
-- Attributes
------------------------------------------------------------

/-
  The level at which the limit on attribute accesses is
  exceeded first.
-/
def exceedingLevel
    (maxLevel : UInt32) : Nat :=
  min (maxLevel.toNat + 1) (UInt32.size - 1)

/- The issue with an attribute access at a level. -/
def levelIssues
    (level : Nat) : List Issue :=
  if checker.maxLevel ≠ 0 ∧ level = exceedingLevel checker.maxLevel then
    [.levelExceeded checker.maxLevel.toNat level]
  else
    []

/- The issue that an attribute is not among the known ones. -/
def unsafeAccess
    (access : AttributeAccess)
    (known : List String) : Issue :=
  .unsafeAccess access (Text.closest access.attr known)

/- The type of an attribute of a record type. -/
def attrOf
    (record : RecordType)
    (access : AttributeAccess) : Checked :=
  match record.attr? access.attr with
  | some attr => (attr.type, [])
  | none =>
      if record.isOpen then (.unknown, [])
      else (.unknown, [unsafeAccess access record.names])

/- An attribute of a record, as part of the context if it is one. -/
def recordAccess
    (base : Expr)
    (attr : String) : AttributeAccess :=
  match base, checker.env.actionUid with
  | .var .context, some action => .context action attr
  | _, _ => .record attr

/-
  The type of an attribute of an expression of a type.
  Actions have no attributes.
-/
def accessAttr
    (base : Expr)
    (attr : String) : Ty → Checked
  | .unknown => (.unknown, [])
  | .unspecified => (.unknown, [])
  | .anyEntity => (.unknown, [])
  | .entity type =>
      match checker.schema.entityType? type with
      | some info => attrOf info.shape (.entity type attr)
      | none =>
          if type.isAction then
            (.unknown, [unsafeAccess (.entity type attr) []])
          else
            (.unknown, [.undeclaredTypeAccess type attr])
  | .record record => attrOf record (checker.recordAccess base attr)
  | ty => (.unknown, [.accessOnNonRecord attr ty])

------------------------------------------------------------
-- Expressions
------------------------------------------------------------

mutual

/-
  The type of an expression and the issues found in it.
  `level` is the number of attribute accesses around it.
-/
def check
    (position : Position)
    (level : Nat)
    (e : Expr) : Checked :=
  if checker.guard position then (.unknown, [.recursionLimit])
  else
    match e with
    | .lit value => checker.checkLiteral value
    | .var name => (checker.varTy name, [])
    | .ite test yes no =>
        let (testTy, testIssues) := check (0 :: position) level test
        let (yesTy, yesIssues) := check (1 :: position) level yes
        let (noTy, noIssues) := check (2 :: position) level no
        let here :=
          if testTy.mayBeBool then []
          else [.unexpectedType .bool testTy none]
        (Ty.unify yesTy noTy,
          testIssues ++ here ++ yesIssues ++ noIssues)
    | .and left right =>
        let (leftTy, leftIssues) := check (0 :: position) level left
        let (rightTy, rightIssues) :=
          check (1 :: position) level right
        (.bool,
          leftIssues ++ Operand.bool leftTy ++
            rightIssues ++ Operand.bool rightTy)
    | .or left right =>
        let (leftTy, leftIssues) := check (0 :: position) level left
        let (rightTy, rightIssues) :=
          check (1 :: position) level right
        (.bool,
          leftIssues ++ Operand.bool leftTy ++
            rightIssues ++ Operand.bool rightTy)
    | .unary op arg =>
        let (argTy, argIssues) := check (0 :: position) level arg
        let (ty, here) := op.check argTy
        (ty, argIssues ++ here)
    | .binary op left right =>
        let (leftTy, leftIssues) := check (0 :: position) level left
        let (rightTy, rightIssues) :=
          check (1 :: position) level right
        let (ty, here) := checker.schema.checkBinary op leftTy rightTy
        (ty, leftIssues ++ rightIssues ++ here)
    | .call function args =>
        let (types, argIssues) := checkList position level 0 args
        let (ty, here) := checkCall function args types
        (ty, argIssues ++ here)
    | .getAttr base attr =>
        let (baseTy, baseIssues) :=
          check (0 :: position) (level + 1) base
        let (ty, here) := checker.accessAttr base attr baseTy
        (ty, checker.levelIssues (level + 1) ++ baseIssues ++ here)
    | .hasAttr base _ =>
        let (baseTy, baseIssues) := check (0 :: position) level base
        (.bool,
          baseIssues ++
            Operand.require .has baseTy.mayHaveAttributes baseTy)
    | .like arg _ =>
        let (argTy, argIssues) := check (0 :: position) level arg
        (.bool,
          argIssues ++ Operand.require .like argTy.mayBeString argTy)
    | .is arg _ =>
        let (argTy, argIssues) := check (0 :: position) level arg
        (.bool,
          argIssues ++ Operand.require .is argTy.mayBeEntity argTy)
    | .isIn arg _ group =>
        let (argTy, argIssues) := check (0 :: position) level arg
        let (groupTy, groupIssues) :=
          check (1 :: position) level group
        (.bool,
          argIssues ++ Operand.require .is argTy.mayBeEntity argTy ++
            groupIssues ++ Operand.group groupTy)
    | .set elements =>
        let (types, elementIssues) :=
          checkList position level 0 elements
        let (ty, here) := Operand.setLiteral types
        (ty, elementIssues ++ here)
    | .record fields =>
        let (types, issues) := checkFields position level 0 fields
        (Ty.closedRecord types, issues)

/- The types of a list of expressions, from one index on. -/
def checkList
    (position : Position)
    (level index : Nat) : List Expr → List Ty × List Issue
  | [] => ([], [])
  | e :: es =>
      let (ty, here) := check (index :: position) level e
      let (types, issues) := checkList position level (index + 1) es
      (ty :: types, here ++ issues)

/- The types of the fields of a record, from one index on. -/
def checkFields
    (position : Position)
    (level index : Nat) :
    List (String × Expr) → List (String × Ty) × List Issue
  | [] => ([], [])
  | (name, e) :: rest =>
      let (ty, here) := check (index :: position) level e
      let (types, issues) :=
        checkFields position level (index + 1) rest
      ((name, ty) :: types, here ++ issues)

end

------------------------------------------------------------
-- Conditions
------------------------------------------------------------

/- The issue with a condition that is no truth value. -/
def conditionIssues : Ty → List Issue
  | .bool => []
  | .unknown => []
  | .unspecified =>
      [.unexpectedType .bool .unspecified (some .unspecified)]
  | ty => [.unexpectedType .bool ty (some .notBool)]

/- The issues in conditions, from one index on. -/
def checkClauses
    (index : Nat) : List Clause → List Issue
  | [] => []
  | clause :: rest =>
      let (ty, issues) := checker.check [index] 0 clause.body
      issues ++ conditionIssues ty ++ checkClauses (index + 1) rest

/-
  Report an issue after others. That the nesting is too deep
  is reported unless it was already.
-/
def report
    (reported : List Issue)
    (issue : Issue) : List Issue :=
  if issue = .recursionLimit ∧ issue ∈ reported then reported
  else reported ++ [issue]

/- The issues in the conditions of a policy, as they are reported. -/
def checkConditions
    (conditions : List Clause) : List Issue :=
  (checker.checkClauses 0 conditions).foldl report []

end Checker

end PolicyCheck
