import PolicyCheck.Data.Reach
import PolicyCheck.Ty.Printer

/-
  This file defines schemas: tables of the declared entity
  types and actions, in which all names are qualified and
  all common types are resolved, and the questions that
  checking asks of them.

  Key definitions include:
    * `EntityTypeInfo`
    * `ActionInfo`
    * `Schema`
    * `Schema.hasApplicableAction`
    * `Schema.isMalformed`
    * `Schema.hasValidAppliesTo`
    * `Schema.canBeDescendant`
    * `Schema.actionsIn`
-/

namespace PolicyCheck

------------------------------------------------------------
-- Tables
------------------------------------------------------------

/-
  A declared entity type: its attributes, and the types its
  entities can be direct members of.
-/
structure EntityTypeInfo where
  name : EntityType
  shape : RecordType
  memberOf : List EntityType
deriving Repr

/-
  A declared action: the types of principals and resources
  it applies to, the type of its context, and the groups it
  is a direct member of.
-/
structure ActionInfo where
  name : EntityUid
  principals : List EntityType
  resources : List EntityType
  context : RecordType
  memberOf : List EntityUid
deriving Repr

/- A schema. -/
structure Schema where
  entityTypes : Assoc EntityType EntityTypeInfo
  actions : Assoc EntityUid ActionInfo
  commonTypes : Assoc String Ty
deriving Repr

namespace Schema

/- The schema that declares nothing. -/
def empty : Schema :=
  ⟨[], [], []⟩

------------------------------------------------------------
-- Look Up
------------------------------------------------------------

/- The declaration of an entity type. -/
def entityType?
    (schema : Schema)
    (type : EntityType) : Option EntityTypeInfo :=
  schema.entityTypes.find? type

/- The declaration of an action. -/
def action?
    (schema : Schema)
    (uid : EntityUid) : Option ActionInfo :=
  schema.actions.find? uid

/- An entity type is declared. -/
def knowsType
    (schema : Schema)
    (type : EntityType) : Bool :=
  (schema.entityType? type).isSome

/- An action is declared. -/
def knowsAction
    (schema : Schema)
    (uid : EntityUid) : Bool :=
  (schema.action? uid).isSome

/- A type is declared, or is one of actions. -/
def knowsTypeOrAction
    (schema : Schema)
    (type : EntityType) : Bool :=
  schema.knowsType type || type.isAction

/- The type a common type was resolved to. -/
def commonType?
    (schema : Schema)
    (name : String) : Option Ty :=
  schema.commonTypes.find? name

/- The declared entity types. -/
def typeNames
    (schema : Schema) : List EntityType :=
  schema.entityTypes.keys

/- The declarations of all actions. -/
def actionInfos
    (schema : Schema) : List ActionInfo :=
  schema.actions.values

------------------------------------------------------------
-- Applicable Actions
------------------------------------------------------------

/- Some action applies to principals and to resources. -/
def hasApplicableAction
    (schema : Schema) : Bool :=
  schema.actionInfos.any fun action =>
    !action.principals.isEmpty && !action.resources.isEmpty

/-
  A type has a namespace but no base name, and is not
  declared.
-/
def isMalformed
    (schema : Schema)
    (type : EntityType) : Bool :=
  type.basename.isEmpty && !type.namespacePart.isEmpty &&
    !schema.knowsType type

/-
  An action applies to principals and to resources, and not
  all of their types are malformed.
-/
def hasValidAppliesTo
    (schema : Schema)
    (action : ActionInfo) : Bool :=
  !action.principals.isEmpty && !action.resources.isEmpty &&
    !(action.principals.all schema.isMalformed &&
      action.resources.all schema.isMalformed)

------------------------------------------------------------
-- Hierarchies
------------------------------------------------------------

/- The edges between entity types. -/
def typeGraph
    (schema : Schema) : Graph EntityType :=
  schema.entityTypes.mapValues EntityTypeInfo.memberOf

/- The edges between actions. -/
def actionGraph
    (schema : Schema) : Graph EntityUid :=
  schema.actions.mapValues ActionInfo.memberOf

/-
  An entity of the first type can be a member of one of the
  second, directly or through others.
-/
def canBeDescendant
    (schema : Schema)
    (source target : EntityType) : Bool :=
  schema.typeGraph.reaches source target

/-
  The declared actions that are a group or its members,
  directly or through other groups, in ascending order.
-/
def actionsIn
    (schema : Schema)
    (group : EntityUid) : List ActionInfo :=
  schema.actionInfos.filter fun action =>
    action.name = group || schema.actionGraph.reaches action.name group

end Schema

end PolicyCheck
