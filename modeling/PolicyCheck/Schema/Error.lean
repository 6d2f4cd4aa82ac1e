import PolicyCheck.Name
import PolicyCheck.Text.Wording

/-
  This file defines why a schema can be refused, and how
  that is reported.

  Key definitions include:
    * `SchemaAdvice`
    * `RecordOwner`
    * `SchemaError`
    * `SchemaError.message`
    * `SchemaError.help?`
-/

namespace PolicyCheck

------------------------------------------------------------
-- Causes
------------------------------------------------------------

/- Advice on a schema text that cannot be read. -/
inductive SchemaAdvice where
  | notJson
  | namespaceShape
deriving DecidableEq, Repr

/- Advice as it is reported. -/
def SchemaAdvice.message : SchemaAdvice → String
  | .notJson =>
      "this API was expecting a schema in the JSON format; " ++
        "the input does not start with `\x7b`"
  | .namespaceShape =>
      "a namespace definition may only contain `commonTypes`, " ++
        "`entityTypes`, `actions` and `annotations`"

/- What has to be declared with a record type. -/
inductive RecordOwner where
  | context (action : EntityUid)
  | shape (type : EntityType)
deriving DecidableEq, Repr

/- The owner of a record type as messages name it. -/
def RecordOwner.display : RecordOwner → String
  | .context action => "Context for action " ++ action.display
  | .shape type => "Shape for entity type " ++ type.name

/-
  Why a schema is refused:
    * there is none, or it cannot be read;
    * lists name undeclared entity types or actions;
    * something is declared twice;
    * common types refer to each other in a loop;
    * a context or a shape is no record.
-/
inductive SchemaError where
  | missing
  | malformed (advice : Option SchemaAdvice)
  | undeclaredTypes (types : List EntityType)
  | undeclaredActions (actions : List EntityUid)
  | duplicateEntityType (type : EntityType)
  | duplicateAction (action : EntityUid)
  | duplicateCommonType (name : String)
  | commonTypeCycle (name : String)
  | notRecord (owner : RecordOwner)
deriving DecidableEq, Repr

------------------------------------------------------------
-- Reports
------------------------------------------------------------

namespace SchemaError

/- An error as it is reported. -/
def message : SchemaError → String
  | .missing => "no schema was provided"
  | .malformed _ => "malformed schema"
  | .undeclaredTypes types =>
      "undeclared " ++ counted "entity type" types.length ++ ": " ++
        tickedList (types.map EntityType.name)
  | .undeclaredActions actions =>
      "undeclared " ++ counted "action" actions.length ++ ": " ++
        tickedList (actions.map EntityUid.display)
  | .duplicateEntityType type =>
      "duplicate entity type " ++ ticked type.name
  | .duplicateAction action =>
      "duplicate action " ++ ticked action.display
  | .duplicateCommonType name =>
      "duplicate common type " ++ ticked name
  | .commonTypeCycle name =>
      "cycle in common type references containing " ++ ticked name
  | .notRecord owner =>
      owner.display ++ " is declared with a type other than `Record`"

/- Advice on an error. -/
def help? : SchemaError → Option String
  | .missing =>
      some ("pass a JSON object with `entityTypes` and `actions`, " ++
        "or a map from namespace names to such objects")
  | .malformed advice => advice.map SchemaAdvice.message
  | .undeclaredTypes _ =>
      some ("any entity types appearing in `memberOfTypes` or " ++
        "`appliesTo` need to be declared in `entityTypes`")
  | .undeclaredActions _ =>
      some ("any actions appearing as parents need to be declared " ++
        "as actions")
  | .notRecord (.context _) =>
      some "action contexts must have type `Record`"
  | .notRecord (.shape _) =>
      some "entity type shapes must have type `Record`"
  | _ => none

end SchemaError

end PolicyCheck
