import PolicyCheck.Name

/-
  This file defines the types that expressions and values
  are given. A record type lists its attributes in
  ascending order of their names and says whether a record
  may have further ones.

  Key definitions include:
    * `ExtensionKind`
    * `Openness`
    * `Attribute`
    * `RecordOf`
    * `Ty`
    * `RecordType`
    * `Ty.mayBeEntity`
    * `Ty.mayBeSet`
-/

namespace PolicyCheck

------------------------------------------------------------
-- Extension Kinds
------------------------------------------------------------

/- The kinds of extension values. -/
inductive ExtensionKind where
  | decimal
  | ipaddr
  | datetime
  | duration
deriving DecidableEq, Repr

namespace ExtensionKind

/- The name of a kind. -/
def name : ExtensionKind → String
  | .decimal => "decimal"
  | .ipaddr => "ipaddr"
  | .datetime => "datetime"
  | .duration => "duration"

/- The kind of a name. -/
def ofName?
    (s : String) : Option ExtensionKind :=
  [ExtensionKind.decimal, .ipaddr, .datetime, .duration].find?
    fun kind => kind.name = s

end ExtensionKind

------------------------------------------------------------
-- Record Types
------------------------------------------------------------

/- Whether a record may have attributes beyond the declared ones. -/
inductive Openness where
  | openAttributes
  | closedAttributes
deriving DecidableEq, Repr

namespace Openness

/- Undeclared attributes are allowed. -/
def isOpen : Openness → Bool
  | .openAttributes => true
  | .closedAttributes => false

/- Openness from the answer to whether it is open. -/
def ofBool : Bool → Openness
  | true => .openAttributes
  | false => .closedAttributes

end Openness

/- The type of an attribute, and whether it must be present. -/
structure Attribute (α : Type) where
  type : α
  required : Bool
deriving Repr

/- The declared attributes of a record, and its openness. -/
structure RecordOf (α : Type) where
  attrs : List (String × Attribute α)
  openness : Openness
deriving Repr

namespace RecordOf

variable {α : Type}

/- The record type that declares nothing and allows everything. -/
def anything : RecordOf α :=
  ⟨[], .openAttributes⟩

/- The record allows undeclared attributes. -/
def isOpen
    (record : RecordOf α) : Bool :=
  record.openness.isOpen

/- The declaration of an attribute, if there is one. -/
def attr?
    (record : RecordOf α)
    (name : String) : Option (Attribute α) :=
  Assoc.find? record.attrs name

/- The names of the declared attributes. -/
def names
    (record : RecordOf α) : List String :=
  Assoc.keys record.attrs

end RecordOf

------------------------------------------------------------
-- Types
------------------------------------------------------------

/-
  The types:
    * truth values, integers and strings;
    * entities of one type, and entities of whatever type;
    * sets with elements of one type, and records;
    * extension values of one kind;
    * `unknown`, of which nothing is known;
    * `unspecified`, which was declared without a type.
-/
inductive Ty where
  | bool
  | long
  | string
  | entity (type : EntityType)
  | anyEntity
  | set (element : Ty)
  | record (shape : RecordOf Ty)
  | extension (kind : ExtensionKind)
  | unknown
  | unspecified
deriving Repr, Inhabited

/- The type of records. -/
abbrev RecordType :=
  RecordOf Ty

/- The declared type of an attribute. -/
abbrev AttributeType :=
  Attribute Ty

namespace Ty

/- The closed record type that requires all of its attributes. -/
def closedRecord
    (fields : List (String × Ty)) : Ty :=
  .record
    ⟨fields.map fun (name, ty) => (name, ⟨ty, true⟩),
      .closedAttributes⟩

------------------------------------------------------------
-- Possible Kinds
------------------------------------------------------------

/- Nothing is known about values of the type. -/
def isUnknown : Ty → Bool
  | .unknown => true
  | .unspecified => true
  | _ => false

/- A value of the type could be an entity. -/
def mayBeEntity : Ty → Bool
  | .entity _ => true
  | .anyEntity => true
  | .unknown => true
  | .unspecified => true
  | _ => false

/- A value of the type could be a set. -/
def mayBeSet : Ty → Bool
  | .set _ => true
  | .unknown => true
  | .unspecified => true
  | _ => false

/- A value of the type could be a truth value. -/
def mayBeBool : Ty → Bool
  | .bool => true
  | .unknown => true
  | .unspecified => true
  | _ => false

/- A value of the type could be an integer. -/
def mayBeLong : Ty → Bool
  | .long => true
  | .unknown => true
  | .unspecified => true
  | _ => false

/- A value of the type could be a string. -/
def mayBeString : Ty → Bool
  | .string => true
  | .unknown => true
  | .unspecified => true
  | _ => false

/- A value of the type could have attributes. -/
def mayHaveAttributes : Ty → Bool
  | .record _ => true
  | ty => ty.mayBeEntity

end Ty

end PolicyCheck
