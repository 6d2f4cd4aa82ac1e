import PolicyCheck.Options
import PolicyCheck.Schema.Suggestion
import PolicyCheck.Value.Basic

/-
  This file checks concrete data against a schema. Entities
  are checked as a whole, and all that is wrong with them
  is found; a request is refused for the first reason.

  Key definitions include:
    * `AttributeFault`
    * `RecordOf.faults`
    * `Finding`
    * `Schema.checkEntity`
    * `Refusal`
    * `Schema.checkRequest`
-/

namespace PolicyCheck

------------------------------------------------------------
-- Attributes
------------------------------------------------------------

/- What can be wrong with an attribute of a record. -/
inductive AttributeFault where
  | missing (attr : String)
  | typeMismatch (attr : String) (expected actual : Ty)
  | unexpected (attr : String)
deriving DecidableEq, Repr

/- A fault as it is reported. -/
def AttributeFault.message : AttributeFault → String
  | .missing attr =>
      "required attribute " ++ ticked attr ++ " is missing"
  | .typeMismatch attr expected actual =>
      "attribute " ++ ticked attr ++ " should have type " ++
        expected.display ++ ", but has type " ++ actual.display
  | .unexpected attr =>
      "attribute " ++ ticked attr ++ " is not declared in the schema"

namespace RecordOf

/- What is wrong with one declared attribute of a record. -/
def declaredFault?
    (values : Assoc String Value)
    (attr : String)
    (declared : AttributeType) : Option AttributeFault :=
  match values.find? attr with
  | none => if declared.required then some (.missing attr) else none
  | some value =>
      if Ty.fits declared.type value.infer then none
      else some (.typeMismatch attr declared.type value.infer)

/- The attributes of a record that are not declared. -/
def undeclared
    (record : RecordType)
    (values : Assoc String Value) : List String :=
  values.keys.filter fun attr => (record.attr? attr).isNone

/-
  All that is wrong with the attributes of a record: first
  the declared ones, then, where the mode refuses them,
  those that are not declared.
-/
def faults
    (record : RecordType)
    (mode : Mode)
    (values : Assoc String Value) : List AttributeFault :=
  (record.attrs.filterMap fun (attr, declared) =>
    declaredFault? values attr declared) ++
    if mode.isStrict && !record.isOpen then
      (record.undeclared values).map .unexpected
    else
      []

end RecordOf

------------------------------------------------------------
-- Entities
------------------------------------------------------------

/-
  What can be wrong with an entity: an attribute, the type
  of a parent, or its own type, which is not declared while
  others like it are.
-/
inductive Finding where
  | attribute (fault : AttributeFault)
  | invalidAncestor (type : EntityType)
  | unexpectedType (suggested : List EntityType)
deriving DecidableEq, Repr

namespace Finding

/- A finding about an entity as it is reported. -/
def message
    (uid : EntityUid) : Finding → String
  | .attribute (.missing attr) =>
      "expected entity " ++ ticked uid.display ++
        " to have attribute " ++ ticked attr ++ ", but it does not"
  | .attribute (.typeMismatch attr expected actual) =>
      "in attribute " ++ ticked attr ++ " on " ++
        ticked uid.display ++
        ", type mismatch: value was expected to have type " ++
        expected.display ++ ", but it actually has type " ++
        actual.display
  | .attribute (.unexpected attr) =>
      "attribute " ++ ticked attr ++ " on " ++ ticked uid.display ++
        " should not exist according to the schema"
  | .invalidAncestor type =>
      ticked uid.display ++
        " is not allowed to have an ancestor of type " ++
        ticked type.name ++ " according to the schema"
  | .unexpectedType _ =>
      "entity " ++ ticked uid.display ++ " has type " ++
        ticked uid.type.name ++ " which is not declared in the schema"

/- Advice on a finding. -/
def help? : Finding → Option String
  | .unexpectedType [] => none
  | .unexpectedType [type] => some (didYouMean type.name)
  | .unexpectedType types =>
      some ("did you mean one of " ++
        Text.quoteList (types.map EntityType.name) ++ "?")
  | _ => none

end Finding

namespace Schema

variable (schema : Schema)

/-
  The types of the parents of an entity that are not
  allowed, each once.
-/
def invalidAncestors
    (info : EntityTypeInfo)
    (entity : Entity) : List EntityType :=
  distinct
    ((entity.parents.map EntityUid.type).filter fun type =>
      !info.memberOf.contains type)

/-
  All that is wrong with an entity. Actions are declared as
  such, and are not looked at as entities.
-/
def checkEntity
    (mode : Mode)
    (entity : Entity) : List Finding :=
  let type := entity.uid.type
  if type.isAction then []
  else
    match schema.entityType? type with
    | none => [.unexpectedType (schema.suggestTypes type)]
    | some info =>
        (info.shape.faults mode entity.attrs).map .attribute ++
          (invalidAncestors info entity).map .invalidAncestor

end Schema

------------------------------------------------------------
-- Requests
------------------------------------------------------------

/- Why a request is refused. -/
inductive Refusal where
  | undeclaredAction
  | invalidPrincipal (type : EntityType) (valid : List EntityType)
  | invalidResource (type : EntityType) (valid : List EntityType)
  | invalidContext (fault : AttributeFault)
deriving DecidableEq, Repr

namespace Refusal

/- A refusal of a request for an action as it is reported. -/
def message
    (action : EntityUid) : Refusal → String
  | .undeclaredAction =>
      "request's action " ++ ticked action.display ++
        " is not declared in the schema"
  | .invalidPrincipal type _ =>
      "principal type " ++ ticked type.name ++ " is not valid for " ++
        ticked action.display
  | .invalidResource type _ =>
      "resource type " ++ ticked type.name ++ " is not valid for " ++
        ticked action.display
  | .invalidContext fault =>
      "context is not valid for " ++ ticked action.display ++ ": " ++
        fault.message

/- The types that an action allows, as advice. -/
def validTypes
    (kind : String)
    (action : EntityUid)
    (valid : List EntityType) : String :=
  if valid.isEmpty then
    "no " ++ kind ++ " types are valid for " ++ ticked action.display
  else
    "valid " ++ kind ++ " types for " ++ ticked action.display ++
      ": " ++ tickedList ((ascending valid).map EntityType.name)

/- Advice on a refusal of a request for an action. -/
def help?
    (action : EntityUid) : Refusal → Option String
  | .invalidPrincipal _ valid =>
      some (validTypes "principal" action valid)
  | .invalidResource _ valid =>
      some (validTypes "resource" action valid)
  | _ => none

end Refusal

namespace Schema

variable (schema : Schema)

/- Why a request is refused, if it is. -/
def checkRequest
    (mode : Mode)
    (request : Request) : Option Refusal :=
  match schema.action? request.action with
  | none => some .undeclaredAction
  | some info =>
      let principal := request.principal.type
      let resource := request.resource.type
      if !info.principals.contains principal then
        some (.invalidPrincipal principal info.principals)
      else if !info.resources.contains resource then
        some (.invalidResource resource info.resources)
      else
        (info.context.faults mode request.context).head?.map
          .invalidContext

end Schema

end PolicyCheck
