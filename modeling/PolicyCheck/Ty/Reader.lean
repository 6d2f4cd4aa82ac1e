import PolicyCheck.Ty.Basic

/-
  This file reads types from the documents that they are
  written as.

  Key definitions include:
    * `Openness.ofJson?`
    * `Ty.ofJson?`
-/

namespace PolicyCheck

/- Openness from a document. -/
def Openness.ofJson? : Json → Option Openness
  | .str s =>
      if s = "OpenAttributes" then some .openAttributes
      else if s = "ClosedAttributes" then some .closedAttributes
      else none
  | _ => none

namespace Ty

/- A type that is written as a word. -/
def ofWord?
    (s : String) : Option Ty :=
  if s = "Bool" then some .bool
  else if s = "Long" then some .long
  else if s = "String" then some .string
  else if s = "AnyEntity" then some .anyEntity
  else if s = "Unknown" then some .unknown
  else if s = "Unspecified" then some .unspecified
  else none

mutual

/- A type from a document. -/
def ofJson? : Json → Option Ty
  | .str s => ofWord? s
  | .obj [("Entity", .str name)] => some (.entity ⟨name⟩)
  | .obj [("Extension", .str name)] =>
      (ExtensionKind.ofName? name).map .extension
  | .obj [("Set", j)] => (ofJson? j).map .set
  | .obj [("Record", .obj members)] =>
      (shapeOfMembers? ⟨[], .openAttributes⟩ members).map .record
  | _ => none

/- A record type from the members of an object. -/
def shapeOfMembers?
    (shape : RecordOf Ty) :
    List (String × Json) → Option (RecordOf Ty)
  | [] => some shape
  | ("attrs", .obj [("attrs", .obj attrs)]) :: rest => do
      let attrs ← attrsOfMembers? attrs
      shapeOfMembers? { shape with attrs := attrs } rest
  | ("open_attributes", j) :: rest => do
      let openness ← Openness.ofJson? j
      shapeOfMembers? { shape with openness := openness } rest
  | _ => none

/- The attributes of a record from the members of an object. -/
def attrsOfMembers? :
    List (String × Json) → Option (Assoc String AttributeType)
  | [] => some []
  | (name, .obj members) :: rest => do
      let attr ← attrOfMembers? ⟨.unknown, true⟩ members
      let attrs ← attrsOfMembers? rest
      some (attrs.insert name attr)
  | _ => none

/- An attribute from the members of an object. -/
def attrOfMembers?
    (attr : AttributeType) :
    List (String × Json) → Option AttributeType
  | [] => some attr
  | ("attrType", j) :: rest => do
      let type ← ofJson? j
      attrOfMembers? { attr with type := type } rest
  | ("isRequired", .bool required) :: rest =>
      attrOfMembers? { attr with required := required } rest
  | _ => none

end

end Ty

end PolicyCheck
