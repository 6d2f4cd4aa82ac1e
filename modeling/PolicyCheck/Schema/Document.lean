import PolicyCheck.Name

/-
  This file defines schema documents. A fragment binds
  namespaces to their declarations of common types, entity
  types and actions. Specifications of types are plain data
  here; what they mean is decided when a schema is built.

  Key definitions include:
    * `TypeSpec`
    * `TypeSpec.decode`
    * `TypeSpec.toJson`
    * `EntityTypeSpec`
    * `ActionSpec`
    * `NamespaceSpec`
    * `Fragment`
    * `Fragment.decode`
    * `Fragment.toJson`
-/

namespace PolicyCheck

/- Notes on a declaration, which have no effect. -/
abbrev Annotations :=
  Assoc String String

------------------------------------------------------------
-- Specifications Of Types
------------------------------------------------------------

/-
  The specification of a type. `type` is its kind or its
  name and decides which other fields matter: the element
  of a set, the attributes of a record and whether it is
  open, or the name of an entity type, an extension kind or
  a common type. `required` matters for attributes only.
-/
structure TypeSpec where
  type : String
  element : Option TypeSpec
  attributes : Option (List (String × TypeSpec))
  name : Option String
  required : Option Bool
  additionalAttributes : Bool
  annotations : List (String × String)
deriving Repr

namespace TypeSpec

/- A type given by its name alone. -/
def named
    (type : String) : TypeSpec :=
  ⟨type, none, none, none, none, false, []⟩

instance : Inhabited TypeSpec where
  default := named ""

/- An attribute of the type must be present, unless it says not. -/
def isRequired
    (spec : TypeSpec) : Bool :=
  spec.required.getD true

/- The fields of a type. -/
def layout : Json.Layout :=
  ⟨["type", "element", "attributes", "name", "required",
      "additionalAttributes", "annotations"],
    [], true⟩

/-
  Read one field of a type. A type and a table of types
  come as they are read from the same place.
-/
def setField
    (name : String)
    (j : Json)
    (element : Json → Json.Decoded TypeSpec)
    (attributes : Json → Json.Decoded (Assoc String TypeSpec))
    (spec : TypeSpec) : Json.Decoded TypeSpec :=
  if name = "type" then do
    let type ← j.asString
    .ok { spec with type := type }
  else if name = "element" then do
    let element ← j.asOption element
    .ok { spec with element := element }
  else if name = "attributes" then do
    let attributes ← j.asOption attributes
    .ok { spec with attributes := attributes }
  else if name = "name" then do
    let name ← j.asOption Json.asString
    .ok { spec with name := name }
  else if name = "required" then do
    let required ← j.asOption Json.asBool
    .ok { spec with required := required }
  else if name = "additionalAttributes" then do
    let additional ← j.asBool
    .ok { spec with additionalAttributes := additional }
  else do
    let annotations ← j.asMap Json.asString
    .ok { spec with annotations := annotations }

mutual

/- A type from a document. -/
def decode : Json → Json.Decoded TypeSpec
  | .obj members =>
      layout.assembleMembers [] default (fillMembers members)
  | .arr items =>
      layout.assembleItems default layout.fields (fillItems items)
  | j => .error (.wrongKind j)

/- A table of types; the last binding of a name wins. -/
def decodeTable : Json → Json.Decoded (Assoc String TypeSpec)
  | .obj members => decodeBindings [] members
  | j => .error (.wrongKind j)

/- Bind the members of a table one by one. -/
def decodeBindings
    (done : Assoc String TypeSpec) :
    List (String × Json) → Json.Decoded (Assoc String TypeSpec)
  | [] => .ok done
  | (k, v) :: rest => do
      let spec ← decode v
      decodeBindings (done.insert k spec) rest

/- The members of a type as what they fill in. -/
def fillMembers :
    List (String × Json) →
      List (String × (TypeSpec → Json.Decoded TypeSpec))
  | [] => []
  | (k, v) :: rest =>
      (k, setField k v (fun _ => decode v) (fun _ => decodeTable v)) ::
        fillMembers rest

/- The items of a type as what they fill in. -/
def fillItems :
    List Json →
      List (String → TypeSpec → Json.Decoded TypeSpec)
  | [] => []
  | v :: rest =>
      (fun name =>
        setField name v (fun _ => decode v) (fun _ => decodeTable v)) ::
        fillItems rest

end

end TypeSpec

------------------------------------------------------------
-- Writing
------------------------------------------------------------

/- A member that is written only when there is something to say. -/
def optionalMember
    {α : Type}
    (key : String)
    (toJson : α → Json) : Option α → List (String × Json)
  | some a => [(key, toJson a)]
  | none => []

/- Annotations as a member, unless there are none. -/
def annotationsMember
    (annotations : Annotations) : List (String × Json) :=
  if annotations.isEmpty then []
  else [("annotations", .obj (annotations.mapValues Json.str))]

/- A list of names as a document. -/
def namesToJson
    (names : List String) : Json :=
  .arr (names.map Json.str)

namespace TypeSpec

mutual

/- A type as a document. -/
def toJson : TypeSpec → Json
  | ⟨type, element, attributes, name, required, additional, notes⟩ =>
      .obj (
        [("type", .str type)] ++
        elementMember element ++
        attributesMember attributes ++
        optionalMember "name" Json.str name ++
        optionalMember "required" Json.bool required ++
        (if additional then
          [("additionalAttributes", .bool true)] else []) ++
        annotationsMember notes)

/- The element of a set as a member. -/
def elementMember : Option TypeSpec → List (String × Json)
  | none => []
  | some element => [("element", toJson element)]

/- The attributes of a record as a member. -/
def attributesMember :
    Option (List (String × TypeSpec)) → List (String × Json)
  | none => []
  | some attributes =>
      [("attributes", .obj (tableToJson attributes))]

/- A table of types as the members of an object. -/
def tableToJson :
    List (String × TypeSpec) → List (String × Json)
  | [] => []
  | (name, spec) :: rest => (name, toJson spec) :: tableToJson rest

end

end TypeSpec

------------------------------------------------------------
-- Entity Types
------------------------------------------------------------

/- The declaration of an entity type. -/
structure EntityTypeSpec where
  memberOfTypes : List String
  shape : Option TypeSpec
  tags : Option TypeSpec
  annotations : Annotations
deriving Repr, Inhabited

namespace EntityTypeSpec

/- The fields of an entity type. -/
def layout : Json.Layout :=
  ⟨["memberOfTypes", "shape", "tags", "annotations"], [], true⟩

/- Read one field of an entity type. -/
def setField
    (name : String)
    (j : Json)
    (spec : EntityTypeSpec) : Json.Decoded EntityTypeSpec :=
  if name = "memberOfTypes" then do
    let types ← j.asList Json.asString
    .ok { spec with memberOfTypes := types }
  else if name = "shape" then do
    let shape ← j.asOption TypeSpec.decode
    .ok { spec with shape := shape }
  else if name = "tags" then do
    let tags ← j.asOption TypeSpec.decode
    .ok { spec with tags := tags }
  else do
    let annotations ← j.asMap Json.asString
    .ok { spec with annotations := annotations }

/- An entity type from a document. -/
def decode
    (j : Json) : Json.Decoded EntityTypeSpec :=
  layout.decode setField default j

/- An entity type as a document. -/
def toJson
    (spec : EntityTypeSpec) : Json :=
  .obj (
    (if spec.memberOfTypes.isEmpty then []
      else [("memberOfTypes", namesToJson spec.memberOfTypes)]) ++
    optionalMember "shape" TypeSpec.toJson spec.shape ++
    optionalMember "tags" TypeSpec.toJson spec.tags ++
    annotationsMember spec.annotations)

end EntityTypeSpec

------------------------------------------------------------
-- Actions
------------------------------------------------------------

/- What an action can be done by and to, and in which context. -/
structure AppliesTo where
  resourceTypes : List String
  principalTypes : List String
  context : Option TypeSpec
deriving Repr, Inhabited

namespace AppliesTo

/- The fields of what an action applies to. -/
def layout : Json.Layout :=
  ⟨["resourceTypes", "principalTypes", "context"], [], true⟩

/- Read one field of what an action applies to. -/
def setField
    (name : String)
    (j : Json)
    (spec : AppliesTo) : Json.Decoded AppliesTo :=
  if name = "resourceTypes" then do
    let types ← j.asList Json.asString
    .ok { spec with resourceTypes := types }
  else if name = "principalTypes" then do
    let types ← j.asList Json.asString
    .ok { spec with principalTypes := types }
  else do
    let context ← j.asOption TypeSpec.decode
    .ok { spec with context := context }

/- What an action applies to, from a document. -/
def decode
    (j : Json) : Json.Decoded AppliesTo :=
  layout.decode setField default j

/- What an action applies to, as a document. -/
def toJson
    (spec : AppliesTo) : Json :=
  .obj (
    [("resourceTypes", namesToJson spec.resourceTypes),
      ("principalTypes", namesToJson spec.principalTypes)] ++
    optionalMember "context" TypeSpec.toJson spec.context)

end AppliesTo

/-
  A reference to an action. Without a type it is an action
  of the namespace in which the reference stands.
-/
structure ActionRef where
  id : String
  type : Option String
deriving DecidableEq, Repr, Inhabited

namespace ActionRef

/- The fields of a reference. -/
def layout : Json.Layout :=
  ⟨["id", "type"], ["id"], true⟩

/- Read one field of a reference. -/
def setField
    (name : String)
    (j : Json)
    (ref : ActionRef) : Json.Decoded ActionRef :=
  if name = "id" then do
    let id ← j.asString
    .ok { ref with id := id }
  else do
    let type ← j.asOption Json.asString
    .ok { ref with type := type }

/- A reference from a document. -/
def decode
    (j : Json) : Json.Decoded ActionRef :=
  layout.decode setField default j

/- A reference as a document. -/
def toJson
    (ref : ActionRef) : Json :=
  .obj ([("id", .str ref.id)] ++ optionalMember "type" Json.str ref.type)

end ActionRef

/-
  The declaration of an action. Its own context replaces
  the one of what it applies to; its attributes are kept as
  they are and have no effect.
-/
structure ActionSpec where
  appliesTo : Option AppliesTo
  context : Option TypeSpec
  memberOf : Option (List ActionRef)
  attributes : Option Json
  annotations : Annotations
deriving Repr, Inhabited

namespace ActionSpec

/- The fields of an action. -/
def layout : Json.Layout :=
  ⟨["appliesTo", "context", "memberOf", "attributes",
      "annotations"],
    [], true⟩

/- Read one field of an action. -/
def setField
    (name : String)
    (j : Json)
    (spec : ActionSpec) : Json.Decoded ActionSpec :=
  if name = "appliesTo" then do
    let appliesTo ← j.asOption AppliesTo.decode
    .ok { spec with appliesTo := appliesTo }
  else if name = "context" then do
    let context ← j.asOption TypeSpec.decode
    .ok { spec with context := context }
  else if name = "memberOf" then do
    let memberOf ← j.asOption (Json.asList ActionRef.decode)
    .ok { spec with memberOf := memberOf }
  else if name = "attributes" then do
    let attributes ← j.asOption fun j => .ok j.collapse
    .ok { spec with attributes := attributes }
  else do
    let annotations ← j.asMap Json.asString
    .ok { spec with annotations := annotations }

/- An action from a document. -/
def decode
    (j : Json) : Json.Decoded ActionSpec :=
  layout.decode setField default j

/- An action as a document. -/
def toJson
    (spec : ActionSpec) : Json :=
  .obj (
    optionalMember "appliesTo" AppliesTo.toJson spec.appliesTo ++
    optionalMember "context" TypeSpec.toJson spec.context ++
    optionalMember "memberOf"
      (fun refs => .arr (refs.map ActionRef.toJson)) spec.memberOf ++
    optionalMember "attributes" id spec.attributes ++
    annotationsMember spec.annotations)

end ActionSpec

------------------------------------------------------------
-- Namespaces And Fragments
------------------------------------------------------------

/- The declarations of a namespace. -/
structure NamespaceSpec where
  commonTypes : Assoc String TypeSpec
  entityTypes : Assoc String EntityTypeSpec
  actions : Assoc String ActionSpec
  annotations : Annotations
deriving Repr, Inhabited

namespace NamespaceSpec

/- The fields of a namespace. -/
def layout : Json.Layout :=
  ⟨["commonTypes", "entityTypes", "actions", "annotations"],
    [], true⟩

/- Read one field of a namespace. -/
def setField
    (name : String)
    (j : Json)
    (spec : NamespaceSpec) : Json.Decoded NamespaceSpec :=
  if name = "commonTypes" then do
    let types ← j.asUniqueMap TypeSpec.decode
    .ok { spec with commonTypes := types }
  else if name = "entityTypes" then do
    let types ← j.asUniqueMap EntityTypeSpec.decode
    .ok { spec with entityTypes := types }
  else if name = "actions" then do
    let actions ← j.asUniqueMap ActionSpec.decode
    .ok { spec with actions := actions }
  else do
    let annotations ← j.asMap Json.asString
    .ok { spec with annotations := annotations }

/- A namespace from a document. -/
def decode
    (j : Json) : Json.Decoded NamespaceSpec :=
  layout.decode setField default j

/- A namespace as a document. -/
def toJson
    (spec : NamespaceSpec) : Json :=
  .obj (
    (if spec.commonTypes.isEmpty then []
      else [("commonTypes",
        .obj (spec.commonTypes.mapValues TypeSpec.toJson))]) ++
    [("entityTypes",
        .obj (spec.entityTypes.mapValues EntityTypeSpec.toJson)),
      ("actions", .obj (spec.actions.mapValues ActionSpec.toJson))] ++
    annotationsMember spec.annotations)

end NamespaceSpec

/- A part of a schema: namespaces with their declarations. -/
structure Fragment where
  namespaces : Assoc String NamespaceSpec
deriving Repr, Inhabited

namespace Fragment

/- A document declares one namespace rather than a table of them. -/
def isFlat
    (j : Json) : Bool :=
  j.hasKey "entityTypes" || j.hasKey "actions"

/-
  A fragment from a document. A flat document declares the
  empty namespace.
-/
def decode
    (j : Json) : Json.Decoded Fragment :=
  if isFlat j then do
    let spec ← NamespaceSpec.decode j
    .ok ⟨[("", spec)]⟩
  else do
    let namespaces ← j.asUniqueMap NamespaceSpec.decode
    .ok ⟨namespaces⟩

/- A fragment as a document, never a flat one. -/
def toJson
    (fragment : Fragment) : Json :=
  .obj (fragment.namespaces.mapValues NamespaceSpec.toJson)

end Fragment

end PolicyCheck
