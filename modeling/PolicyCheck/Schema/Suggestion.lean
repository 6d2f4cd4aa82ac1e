import PolicyCheck.Issue
import PolicyCheck.Schema.Basic
import PolicyCheck.Text.Distance

/-
  This file finds what may have been meant by a name that
  is not declared.

  Key definitions include:
    * `Schema.suggestType?`
    * `Schema.suggestTypes`
    * `Schema.suggestAction?`
    * `Schema.unrecognizedType`
    * `Schema.unrecognizedAction`
-/

namespace PolicyCheck

------------------------------------------------------------
-- Entity Types
------------------------------------------------------------

namespace Schema

/- The declared type with the closest name. -/
def suggestType?
    (schema : Schema)
    (type : EntityType) : Option String :=
  Text.closest type.name (schema.typeNames.map EntityType.name)

/-
  The declared types with the same base name, in whatever
  namespace, and otherwise the one with the closest name.
-/
def suggestTypes
    (schema : Schema)
    (type : EntityType) : List EntityType :=
  let same :=
    schema.typeNames.filter fun other =>
      other.basename = type.basename
  if same.isEmpty then
    ((schema.suggestType? type).map EntityType.mk).toList
  else
    same

/- The issue that a type is not declared. -/
def unrecognizedType
    (schema : Schema)
    (type : EntityType) : Issue :=
  .unrecognizedEntityType type (schema.suggestType? type)

------------------------------------------------------------
-- Actions
------------------------------------------------------------

/- A list without the quotes at its start. -/
def dropQuotes
    (cs : List Char) : List Char :=
  cs.dropWhile (· = '"')

/- The start of an id that repeats the type of actions. -/
def actionPart : List Char :=
  "Action::".toList

/-
  The id that is left of one that repeats the type of
  actions: what follows the type, without quotes around it.
-/
def idAfterType?
    (id : String) : Option String :=
  if actionPart.isPrefixOf id.toList then
    let rest := id.toList.drop actionPart.length
    some (String.ofList (dropQuotes (dropQuotes rest).reverse).reverse)
  else
    none

/- The first action that is meant by an id that repeats its type. -/
def actionAfterType?
    (schema : Schema)
    (uid : EntityUid) : Option EntityUid := do
  let id ← idAfterType? uid.id
  let action ← schema.actionInfos.find? fun info => info.name.id = id
  some action.name

/-
  What may have been meant by an undeclared action. An
  action of the closest id is suggested under the type as
  it was written.
-/
def suggestAction?
    (schema : Schema)
    (uid : EntityUid) : Option ActionHint :=
  match schema.actionAfterType? uid with
  | some action => some (.typeInId action.display)
  | none =>
      let ids := schema.actionInfos.map fun info => info.name.id
      (Text.closest uid.id ids).map fun id =>
        .alternative (EntityUid.mk uid.type id).display

/- The issue that an action is not declared. -/
def unrecognizedAction
    (schema : Schema)
    (uid : EntityUid) : Issue :=
  .unrecognizedAction uid (schema.suggestAction? uid)

end Schema

end PolicyCheck
