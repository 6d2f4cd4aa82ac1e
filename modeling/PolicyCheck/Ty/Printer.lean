import PolicyCheck.Ty.Basic

/-
  This file writes types: as the text that messages show,
  and as documents.

  Key definitions include:
    * `Ty.display`
    * `RecordOf.display`
    * `Ty.toJson`
    * `RecordOf.toJson`
-/

namespace PolicyCheck

namespace Ty

------------------------------------------------------------
-- Text
------------------------------------------------------------

/- The mark before the attributes of an open record. -/
def openMark : Openness → String
  | .openAttributes => "__cedar::internal::OpenRecord"
  | .closedAttributes => ""

mutual

/- A type as messages show it. -/
def display : Ty → String
  | .bool => "Bool"
  | .long => "Long"
  | .string => "String"
  | .entity type => type.name
  | .anyEntity => "__cedar::internal::AnyEntity"
  | .set element => "Set<" ++ display element ++ ">"
  | .record ⟨attrs, openness⟩ =>
      openMark openness ++ "\x7b" ++ displayAttrs attrs ++ "\x7d"
  | .extension kind => kind.name
  | .unknown => "__cedar::internal::Unknown"
  | .unspecified => "__cedar::internal::Unspecified"

/- The attributes of a record, each followed by a comma. -/
def displayAttrs : List (String × Attribute Ty) → String
  | [] => ""
  | (name, ⟨type, required⟩) :: rest =>
      name ++ (if required then "" else "?") ++ ": " ++
        display type ++ "," ++ displayAttrs rest

end

------------------------------------------------------------
-- Documents
------------------------------------------------------------

end Ty

/- Openness as a document. -/
def Openness.toJson : Openness → Json
  | .openAttributes => .str "OpenAttributes"
  | .closedAttributes => .str "ClosedAttributes"

namespace Ty

mutual

/- A type as a document. -/
def toJson : Ty → Json
  | .bool => .str "Bool"
  | .long => .str "Long"
  | .string => .str "String"
  | .entity type => .obj [("Entity", type.toJson)]
  | .anyEntity => .str "AnyEntity"
  | .set element => .obj [("Set", toJson element)]
  | .record ⟨attrs, openness⟩ =>
      .obj [("Record",
        .obj [
          ("attrs", .obj [("attrs", .obj (attrsToJson attrs))]),
          ("open_attributes", openness.toJson)])]
  | .extension kind => .obj [("Extension", .str kind.name)]
  | .unknown => .str "Unknown"
  | .unspecified => .str "Unspecified"

/- The attributes of a record as members of an object. -/
def attrsToJson :
    List (String × Attribute Ty) → List (String × Json)
  | [] => []
  | (name, ⟨type, required⟩) :: rest =>
      (name,
        .obj [
          ("attrType", toJson type),
          ("isRequired", .bool required)]) ::
        attrsToJson rest

end

end Ty

namespace RecordOf

/- A record type as messages show it. -/
def display
    (record : RecordType) : String :=
  (Ty.record record).display

/- The attributes of a record type as a document. -/
def attrsToJson
    (record : RecordType) : Json :=
  .obj [("attrs", .obj (Ty.attrsToJson record.attrs))]

/- A record type as a document. -/
def toJson
    (record : RecordType) : Json :=
  .obj [
    ("attrs", record.attrsToJson),
    ("open_attributes", record.openness.toJson)]

end RecordOf

end PolicyCheck
