import PolicyCheck.Text.Wording
import PolicyCheck.Ty.Matching
import PolicyCheck.Ty.Printer

/-
  This file defines what can be wrong with a policy, and
  how it is reported.

  Key definitions include:
    * `ActionHint`
    * `ScopeSide`
    * `Impossibility`
    * `ConditionHint`
    * `OperandRequirement`
    * `Comparison`
    * `AttributeAccess`
    * `Issue`
    * `Diagnostic`
    * `Diagnostic.message`
    * `Issue.help?`
-/

namespace PolicyCheck

------------------------------------------------------------
-- Scopes
------------------------------------------------------------

/-
  Advice on an undeclared action: its id seems to repeat
  the type of actions, or another action is meant.
-/
inductive ActionHint where
  | typeInId (action : String)
  | alternative (action : String)
deriving DecidableEq, Repr

/- Advice on an action as it is reported. -/
def ActionHint.message : ActionHint → String
  | .typeInId action =>
      "did you intend to include the type in action " ++
        ticked action ++ "?"
  | .alternative action => didYouMean action

/- A side of a scope. -/
inductive ScopeSide where
  | principal
  | resource
  | both
deriving DecidableEq, Repr

/- A side of a scope as messages name it. -/
def ScopeSide.display : ScopeSide → String
  | .principal => "principal scope"
  | .resource => "resource scope"
  | .both => "principal and resource scopes"

/- Why no request can satisfy a policy. -/
inductive Impossibility where
  | noApplicableActions
  | actionWithoutAppliesTo (action : EntityUid)
  | emptyActionSet
  | noListedActionApplies
  | scopeTypeNotAllowed (side : ScopeSide)
  | unsupportedCombination
  | inTargetUnreachable (side : ScopeSide) (target : EntityType)
  | whenAlwaysFalse
  | unlessAlwaysTrue
deriving DecidableEq, Repr

namespace Impossibility

/- An impossibility as it is reported. -/
def message : Impossibility → String
  | .noApplicableActions =>
      "no action in the schema applies to both a principal type " ++
        "and a resource type"
  | .actionWithoutAppliesTo action =>
      "action " ++ ticked action.display ++
        " does not apply to any principal and resource types"
  | .emptyActionSet => "the action scope is an empty set"
  | .noListedActionApplies =>
      "none of the actions in the scope apply to any principal " ++
        "and resource types"
  | .scopeTypeNotAllowed side =>
      "the types in the " ++ side.display ++
        " are not allowed by any action in the scope"
  | .unsupportedCombination =>
      "no action supports this principal/resource combination"
  | .inTargetUnreachable side target =>
      "no entity type allowed for the " ++ side.display ++
        " can be a member of an entity of type " ++ ticked target.name
  | .whenAlwaysFalse =>
      "a `when` condition always evaluates to false"
  | .unlessAlwaysTrue =>
      "an `unless` condition always evaluates to true"

/- Advice on an impossibility. -/
def help? : Impossibility → Option String
  | .actionWithoutAppliesTo action =>
      some ("declare `principalTypes` and `resourceTypes` for " ++
        ticked action.display ++ " in the schema")
  | .unsupportedCombination =>
      some ("each scope is allowed by some action, but never by " ++
        "the same action")
  | _ => none

/- The impossibility lies in the scope, not in a condition. -/
def isOfScope : Impossibility → Bool
  | .whenAlwaysFalse => false
  | .unlessAlwaysTrue => false
  | _ => true

end Impossibility

------------------------------------------------------------
-- Conditions
------------------------------------------------------------

/- Advice on a condition that is no truth value. -/
inductive ConditionHint where
  | notBool
  | unspecified
deriving DecidableEq, Repr

/- Advice on a condition as it is reported. -/
def ConditionHint.message : ConditionHint → String
  | .notBool => "policy conditions must evaluate to a boolean"
  | .unspecified =>
      "the schema declares this value without a type, so it " ++
        "cannot be used as a boolean"

/- What an operator demands of an operand. -/
inductive OperandRequirement where
  | boolean
  | arithmetic
  | comparison
  | inLeft
  | inRight
  | is
  | set
  | setArgument
  | isEmpty
  | like
  | has
  | tagTarget
  | tagName
deriving DecidableEq, Repr

namespace OperandRequirement

/- A demand as it is reported. -/
def message : OperandRequirement → String
  | .boolean => "boolean operator requires boolean operands"
  | .arithmetic => "arithmetic operator requires Long operands"
  | .comparison => "comparison operator requires Long operands"
  | .inLeft => "left operand of 'in' operator must be entity"
  | .inRight =>
      "right operand of 'in' operator must be entity or set of " ++
        "entities"
  | .is => "operand of 'is' operator must be entity"
  | .set =>
      "'contains' operators require a set as their first operand"
  | .setArgument =>
      "'containsAll' and 'containsAny' require a set as their " ++
        "second operand"
  | .isEmpty => "'isEmpty' requires a set operand"
  | .like => "'like' requires a String operand"
  | .has => "'has' requires an entity or record operand"
  | .tagTarget => "tag operators require an entity operand"
  | .tagName => "tag operators require a String tag"

/- Advice on an operand of `in` of a type. -/
def inHelp? : Ty → Option String
  | .set _ =>
      some ("try using `contains`, `containsAny`, or " ++
        "`containsAll` to examine the contents of a set")
  | .string =>
      some ("try using `like` to examine the contents of a " ++
        "string")
  | _ => none

/- Advice on an operand of a type. -/
def help? : OperandRequirement → Ty → Option String
  | .arithmetic, .string =>
      some "Cedar does not support string concatenation"
  | .comparison, .extension .decimal =>
      some "use `.lessThan()` and friends to compare decimals"
  | .inLeft, ty => inHelp? ty
  | .inRight, ty => inHelp? ty
  | _, _ => none

end OperandRequirement

/- Where two types are compared. -/
inductive Comparison where
  | set
  | equality
  | contains
  | containsAnyAll
deriving DecidableEq, Repr

/- A comparison as messages name it. -/
def Comparison.display : Comparison → String
  | .set => "elements of a set"
  | .equality => "both operands to a `==` expression"
  | .contains =>
      "elements of the first operand and the second operand to a " ++
        "`contains` expression"
  | .containsAnyAll =>
      "elements of both set operands to a `containsAll` or " ++
        "`containsAny` expression"

/- A hint on types that are not compatible, as it is reported. -/
def LubHint.message : LubHint → String
  | .attributeType name =>
      "Attribute " ++ ticked name ++
        " has incompatible types in the two records"
  | .recordWidth name =>
      "Attribute " ++ ticked name ++
        " appears in only one of the records, and the other " ++
        "record is closed"
  | .category => "Values of these types can never be equal"
  | .mismatch => "Types must match to be compatible"

/- Where an attribute was looked for. -/
inductive AttributeAccess where
  | entity (type : EntityType) (attr : String)
  | context (action : EntityUid) (attr : String)
  | record (attr : String)
deriving DecidableEq, Repr

namespace AttributeAccess

/- The attribute that was looked for. -/
def attr : AttributeAccess → String
  | .entity _ attr => attr
  | .context _ attr => attr
  | .record attr => attr

/- An access as messages name it. -/
def display : AttributeAccess → String
  | .entity type attr =>
      ticked attr ++ " on entity type " ++ ticked type.name
  | .context action attr =>
      ticked attr ++ " in context for " ++ action.display
  | .record attr => ticked attr

end AttributeAccess

------------------------------------------------------------
-- Issues
------------------------------------------------------------

/- What can be wrong with a policy. -/
inductive Issue where
  | unrecognizedEntityType
      (type : EntityType) (suggestion : Option String)
  | unrecognizedAction
      (action : EntityUid) (hint : Option ActionHint)
  | impossible (reason : Impossibility)
  | unexpectedType
      (expected actual : Ty) (hint : Option ConditionHint)
  | invalidOperand (requirement : OperandRequirement) (actual : Ty)
  | incompatibleTypes
      (types : List Ty) (hint : LubHint) (comparison : Comparison)
  | unsafeAccess
      (access : AttributeAccess) (suggestion : Option String)
  | undeclaredTypeAccess (type : EntityType) (attr : String)
  | accessOnNonRecord (attr : String) (actual : Ty)
  | wrongArgumentCount (function : String) (expected actual : Nat)
  | invalidLiteral
      (kind : ExtensionKind) (literal reason : String)
  | levelExceeded (allowed actual : Nat)
  | recursionLimit
deriving DecidableEq, Repr

namespace Issue

/- An issue as it is reported, without the policy. -/
def message : Issue → String
  | .unrecognizedEntityType type _ =>
      "unrecognized entity type " ++ ticked type.name
  | .unrecognizedAction action _ =>
      "unrecognized action " ++ ticked action.display
  | .impossible reason =>
      "policy is impossible: " ++ reason.message
  | .unexpectedType expected actual _ =>
      "unexpected type: expected " ++ expected.display ++
        " but saw " ++ actual.display
  | .invalidOperand requirement actual =>
      requirement.message ++ ", but saw " ++ actual.display
  | .incompatibleTypes types _ comparison =>
      let place :=
        if comparison = .set then "incompatible set element types: "
        else ""
      place ++ "the types " ++
        " and ".intercalate
          (types.map fun type => ticked type.display) ++
        " are not compatible"
  | .unsafeAccess access _ =>
      "attribute " ++ access.display ++ " not found"
  | .undeclaredTypeAccess type attr =>
      "cannot access attribute " ++ ticked attr ++
        ": entity type " ++ ticked type.name ++
        " does not exist in the schema"
  | .accessOnNonRecord attr actual =>
      "cannot access attribute " ++ ticked attr ++
        " on a value of type " ++ actual.display
  | .wrongArgumentCount function expected actual =>
      "wrong number of arguments in extension function " ++
        "application " ++ ticked function ++ ". Expected " ++
        toString expected ++ ", got " ++ toString actual
  | .invalidLiteral kind literal _ =>
      "invalid " ++ ticked kind.name ++ " literal \"" ++ literal ++
        "\""
  | .levelExceeded allowed actual =>
      "attribute access exceeds maximum level: this policy " ++
        "requires level " ++ toString actual ++
        ", which exceeds the maximum allowed level (" ++
        toString allowed ++ ")"
  | .recursionLimit =>
      "expression is nested too deeply to validate"

/- Advice on an issue. -/
def help? : Issue → Option String
  | .unrecognizedEntityType _ suggestion => suggestion.map didYouMean
  | .unrecognizedAction _ hint => hint.map ActionHint.message
  | .impossible reason => reason.help?
  | .unexpectedType _ _ hint => hint.map ConditionHint.message
  | .invalidOperand requirement actual => requirement.help? actual
  | .incompatibleTypes _ hint comparison =>
      some (comparison.display ++ " must have compatible types. " ++
        hint.message)
  | .unsafeAccess _ suggestion => suggestion.map didYouMean
  | .undeclaredTypeAccess _ _ => none
  | .accessOnNonRecord _ _ =>
      some "only entities and records have attributes"
  | .wrongArgumentCount _ _ _ => none
  | .invalidLiteral _ _ reason => some reason
  | .levelExceeded _ _ =>
      some ("each attribute access on an entity or record counts " ++
        "as one level")
  | .recursionLimit => none

/- The issue says that no request can satisfy the policy. -/
def isImpossible : Issue → Bool
  | .impossible _ => true
  | _ => false

/- The issue says that the scope cannot be satisfied. -/
def isImpossibleScope : Issue → Bool
  | .impossible reason => reason.isOfScope
  | _ => false

end Issue

/- An issue together with its policy. -/
structure Diagnostic where
  policy : PolicyId
  issue : Issue
deriving DecidableEq, Repr

/- A diagnostic as it is reported. -/
def Diagnostic.message
    (diagnostic : Diagnostic) : String :=
  "for policy " ++ ticked diagnostic.policy.display ++ ", " ++
    diagnostic.issue.message

end PolicyCheck
