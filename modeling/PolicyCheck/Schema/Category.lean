import PolicyCheck.Schema.Basic

/-
  This file sorts types into categories. Values of two
  categories are never equal; where a type says too little
  about its values it has the category `unknown`, which can
  be compared with all others.

  Key definitions include:
    * `Category`
    * `Category.comparable`
    * `Schema.category`
-/

namespace PolicyCheck

/- A category of types. -/
inductive Category where
  | unknown
  | bool
  | long
  | string
  | entity
  | set
  | record
  | extension (kind : ExtensionKind)
deriving DecidableEq, Repr

namespace Category

/- The name of a category. -/
def name : Category → String
  | .unknown => "unknown"
  | .bool => "bool"
  | .long => "long"
  | .string => "string"
  | .entity => "entity"
  | .set => "set"
  | .record => "record"
  | .extension .decimal => "extDecimal"
  | .extension .ipaddr => "extIpaddr"
  | .extension .datetime => "extDatetime"
  | .extension .duration => "extDuration"

/- Values of two categories could be equal. -/
def comparable
    (a b : Category) : Bool :=
  a = .unknown || b = .unknown || a = b

end Category

namespace Schema

/-
  The category of a type. Nothing is known of entities of
  an undeclared type, unless they are actions.
-/
def category
    (schema : Schema) : Ty → Category
  | .bool => .bool
  | .long => .long
  | .string => .string
  | .entity type =>
      if schema.knowsTypeOrAction type then .entity else .unknown
  | .anyEntity => .entity
  | .set _ => .set
  | .record _ => .record
  | .extension kind => .extension kind
  | .unknown => .unknown
  | .unspecified => .unknown

end Schema

end PolicyCheck
