import PolicyCheck.Name

/-
  This file defines the expressions that the conditions of
  policies are made of. Records bind their fields in
  ascending order.

  Key definitions include:
    * `Var`
    * `Literal`
    * `UnaryOp`
    * `BinaryOp`
    * `Expr`
    * `Expr.children`
    * `Expr.mentionedType?`
-/

namespace PolicyCheck

------------------------------------------------------------
-- Parts
------------------------------------------------------------

/- The variables of a request. -/
inductive Var where
  | principal
  | action
  | resource
  | context
deriving DecidableEq, Repr

namespace Var

/- All variables. -/
def all : List Var :=
  [.principal, .action, .resource, .context]

/- The name of a variable. -/
def name : Var → String
  | .principal => "principal"
  | .action => "action"
  | .resource => "resource"
  | .context => "context"

end Var

/- The literals. -/
inductive Literal where
  | bool (value : Bool)
  | long (value : Int64)
  | string (value : String)
  | entity (uid : EntityUid)
deriving DecidableEq, Repr

/- The operators with one operand. -/
inductive UnaryOp where
  | not
  | neg
  | isEmpty
deriving DecidableEq, Repr

/- The symbol of an operator. -/
def UnaryOp.symbol : UnaryOp → String
  | .not => "!"
  | .neg => "-"
  | .isEmpty => "isEmpty"

/- The operators with two operands. -/
inductive BinaryOp where
  | eq
  | notEq
  | less
  | lessEq
  | greater
  | greaterEq
  | add
  | sub
  | mul
  | mem
  | contains
  | containsAll
  | containsAny
  | getTag
  | hasTag
deriving DecidableEq, Repr

namespace BinaryOp

/- All operators with two operands. -/
def all : List BinaryOp :=
  [.eq, .notEq, .less, .lessEq, .greater, .greaterEq, .add, .sub,
    .mul, .mem, .contains, .containsAll, .containsAny, .getTag,
    .hasTag]

/- The symbol of an operator. -/
def symbol : BinaryOp → String
  | .eq => "=="
  | .notEq => "!="
  | .less => "<"
  | .lessEq => "<="
  | .greater => ">"
  | .greaterEq => ">="
  | .add => "+"
  | .sub => "-"
  | .mul => "*"
  | .mem => "in"
  | .contains => "contains"
  | .containsAll => "containsAll"
  | .containsAny => "containsAny"
  | .getTag => "getTag"
  | .hasTag => "hasTag"

end BinaryOp

------------------------------------------------------------
-- Expressions
------------------------------------------------------------

/- An expression. -/
inductive Expr where
  | lit (value : Literal)
  | var (name : Var)
  | ite (test yes no : Expr)
  | and (left right : Expr)
  | or (left right : Expr)
  | unary (op : UnaryOp) (arg : Expr)
  | binary (op : BinaryOp) (left right : Expr)
  | call (function : String) (args : List Expr)
  | getAttr (base : Expr) (attr : String)
  | hasAttr (base : Expr) (attr : String)
  | like (arg : Expr) (pattern : String)
  | is (arg : Expr) (type : EntityType)
  | isIn (arg : Expr) (type : EntityType) (group : Expr)
  | set (elements : List Expr)
  | record (fields : List (String × Expr))
deriving Repr, Inhabited

namespace Expr

/- The direct parts of an expression, in the order they are written. -/
def children : Expr → List Expr
  | .lit _ => []
  | .var _ => []
  | .ite test yes no => [test, yes, no]
  | .and left right => [left, right]
  | .or left right => [left, right]
  | .unary _ arg => [arg]
  | .binary _ left right => [left, right]
  | .call _ args => args
  | .getAttr base _ => [base]
  | .hasAttr base _ => [base]
  | .like arg _ => [arg]
  | .is arg _ => [arg]
  | .isIn arg _ group => [arg, group]
  | .set elements => elements
  | .record fields => fields.map Prod.snd

/- The entity type that an expression itself mentions. -/
def mentionedType? : Expr → Option EntityType
  | .lit (.entity uid) => some uid.type
  | .is _ type => some type
  | .isIn _ type _ => some type
  | _ => none

end Expr

end PolicyCheck
