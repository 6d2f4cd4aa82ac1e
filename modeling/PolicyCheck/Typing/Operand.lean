import PolicyCheck.Data.Distinct
import PolicyCheck.Expr.Basic
import PolicyCheck.Issue
import PolicyCheck.Schema.Category

/-
  This file says what operators demand of the types of
  their operands, and which types they give.

  Key definitions include:
    * `Checked`
    * `Operand.require`
    * `Operand.incompatible`
    * `Operand.joinElements`
    * `Schema.equalityIssues`
    * `UnaryOp.check`
    * `Schema.checkBinary`
-/

namespace PolicyCheck

/- The type of an expression and the issues found in it. -/
abbrev Checked :=
  Ty × List Issue

namespace Operand

------------------------------------------------------------
-- Demands
------------------------------------------------------------

/- The issue with an operand that does not meet a demand. -/
def require
    (requirement : OperandRequirement)
    (satisfied : Bool)
    (actual : Ty) : List Issue :=
  if satisfied then [] else [.invalidOperand requirement actual]

/- An operand has to be a truth value. -/
def bool
    (ty : Ty) : List Issue :=
  require .boolean ty.mayBeBool ty

/- An operand has to be an integer. -/
def long
    (ty : Ty) : List Issue :=
  require .arithmetic ty.mayBeLong ty

/- Both operands have to be integers. -/
def longs
    (a b : Ty) : List Issue :=
  long a ++ long b

/- A type is one of entities or of sets of them. -/
def isGroup : Ty → Bool
  | .set element => element.mayBeEntity
  | ty => ty.mayBeEntity

/- A right operand of `in` has to be an entity or a set of them. -/
def group
    (ty : Ty) : List Issue :=
  require .inRight (isGroup ty) ty

/- Values of a type can be ordered by the operators. -/
def isOrderable : Ty → Bool
  | .extension .datetime => true
  | .extension .duration => true
  | ty => ty.mayBeLong

/- Two types that can be ordered are ordered together. -/
def orderedAlike
    (a b : Ty) : Bool :=
  !isOrderable a || !isOrderable b || a.isUnknown || b.isUnknown ||
    a = b

/- Both operands of a comparison have to be ordered, and alike. -/
def ordered
    (a b : Ty) : List Issue :=
  require .comparison (isOrderable a) a ++
    require .comparison (isOrderable b) b ++
    require .comparison (orderedAlike a b) b

/- A tag is read from an entity, by a string. -/
def tag
    (a b : Ty) : List Issue :=
  require .tagTarget a.mayBeEntity a ++
    require .tagName b.mayBeString b

------------------------------------------------------------
-- Compatible Types
------------------------------------------------------------

/- The issue that two types are not compatible. -/
def incompatible
    (a b : Ty)
    (hint : LubHint)
    (comparison : Comparison) : Issue :=
  .incompatibleTypes (ascending [a, b]) hint comparison

/- The elements of a set have to be compatible with a type. -/
def element
    (set ty : Ty) : List Issue :=
  match set with
  | .set x =>
      if Ty.compatible x ty then []
      else [incompatible x ty .mismatch .contains]
  | _ => []

/- The elements of two sets have to be compatible. -/
def elements
    (a b : Ty) : List Issue :=
  match a, b with
  | .set x, .set y =>
      if Ty.compatible x y then []
      else [incompatible a b .mismatch .containsAnyAll]
  | _, _ => []

/- Both operands have to be sets of compatible elements. -/
def sets
    (a b : Ty) : List Issue :=
  require .set a.mayBeSet a ++
    require .setArgument b.mayBeSet b ++
    elements a b

/-
  The type of the elements of a set literal, given the type
  of those so far and the types of those to come. Each one
  has to be compatible with those before it.
-/
def joinElements
    (sofar : Ty) : List Ty → Checked
  | [] => (sofar, [])
  | ty :: rest =>
      let here :=
        if Ty.compatible sofar ty then []
        else [incompatible sofar ty .mismatch .set]
      let (element, issues) := joinElements (Ty.unify sofar ty) rest
      (element, here ++ issues)

/- The type of a set literal with elements of types. -/
def setLiteral : List Ty → Checked
  | [] => (.set .unknown, [])
  | first :: rest =>
      let (element, issues) := joinElements first rest
      (.set element, issues)

end Operand

------------------------------------------------------------
-- Operators
------------------------------------------------------------

/- The type of an operator with one operand. -/
def UnaryOp.check
    (op : UnaryOp)
    (ty : Ty) : Checked :=
  match op with
  | .not => (.bool, Operand.bool ty)
  | .neg => (.long, Operand.long ty)
  | .isEmpty => (.bool, Operand.require .isEmpty ty.mayBeSet ty)

namespace Schema

variable (schema : Schema)

/- Values of two types have to be equal in some case. -/
def equalityIssues
    (a b : Ty) : List Issue :=
  if !(schema.category a).comparable (schema.category b) then
    [Operand.incompatible a b .category .equality]
  else
    match a, b with
    | .record r, .record s =>
        match Ty.recordsClash r s with
        | some hint => [Operand.incompatible a b hint .equality]
        | none => []
    | _, _ => []

/- The type of an operator with two operands. -/
def checkBinary
    (op : BinaryOp)
    (a b : Ty) : Checked :=
  match op with
  | .eq => (.bool, schema.equalityIssues a b)
  | .notEq => (.bool, schema.equalityIssues a b)
  | .less => (.bool, Operand.ordered a b)
  | .lessEq => (.bool, Operand.ordered a b)
  | .greater => (.bool, Operand.ordered a b)
  | .greaterEq => (.bool, Operand.ordered a b)
  | .add => (.long, Operand.longs a b)
  | .sub => (.long, Operand.longs a b)
  | .mul => (.long, Operand.longs a b)
  | .mem =>
      (.bool,
        Operand.require .inLeft a.mayBeEntity a ++ Operand.group b)
  | .contains =>
      (.bool,
        Operand.require .set a.mayBeSet a ++ Operand.element a b)
  | .containsAll => (.bool, Operand.sets a b)
  | .containsAny => (.bool, Operand.sets a b)
  | .getTag => (.unknown, Operand.tag a b)
  | .hasTag => (.bool, Operand.tag a b)

end Schema

end PolicyCheck
