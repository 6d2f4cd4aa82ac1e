import PolicyCheck.Data.Reach
import PolicyCheck.Schema.Document
import PolicyCheck.Schema.Error
import PolicyCheck.Ty.Basic

/-
  This file gives specifications of types their meaning.
  Common types may be declared in any order; a name that is
  being resolved may not come up again below itself. As the
  names in progress are all declared and distinct, there is
  always one less to come. What was resolved once is
  remembered, so no common type is resolved twice.

  Key definitions include:
    * `CommonTypes`
    * `Resolving`
    * `TypeForm.of`
    * `TypeSpec.toTy`
    * `CommonTypes.resolveName`
    * `CommonTypes.resolve`
    * `CommonTypes.type`
    * `CommonTypes.resolveAll`
-/

namespace PolicyCheck

/-
  The declared common types by their qualified names, each
  with the namespace of its declaration.
-/
abbrev CommonTypes :=
  Assoc String (String × TypeSpec)

/- The common types that are resolved already. -/
abbrev Memo :=
  Assoc String Ty

/- What can fail when a schema is built. -/
abbrev Resolved (α : Type) :=
  Except SchemaError α

/- Resolving a type, which may resolve common types on its way. -/
abbrev Resolving (α : Type) :=
  StateT Memo (Except SchemaError) α

------------------------------------------------------------
-- Forms
------------------------------------------------------------

/-
  What a specification is, apart from its parts: a type that
  has none, a set, a record, or the bare name of a type.
-/
inductive TypeForm where
  | plain (type : Ty)
  | set
  | record
  | named (name : String)
deriving Repr

namespace TypeForm

/- The type of an entity, of whatever type if it has no name. -/
def entityTy
    (ns : String) : Option String → Ty
  | none => .anyEntity
  | some name =>
      if name.isEmpty then .anyEntity
      else .entity (EntityType.qualify ns name)

/- The type of an extension kind, unknown if there is no such kind. -/
def extensionTy
    (name : Option String) : Ty :=
  match name.bind ExtensionKind.ofName? with
  | some kind => .extension kind
  | none => .unknown

/- A name that may be one of an entity type or of a common type. -/
def entityOrCommon : Option String → TypeForm
  | none => .plain .unspecified
  | some name =>
      if name.isEmpty then .plain .unspecified else .named name

/-
  The form of a specification inside a namespace, by its
  kind and its name. What is no kind of type is a name.
-/
def of
    (ns type : String)
    (name : Option String) : TypeForm :=
  if type = "Boolean" ∨ type = "Bool" then .plain .bool
  else if type = "Long" then .plain .long
  else if type = "String" then .plain .string
  else if type = "Entity" then .plain (entityTy ns name)
  else if type = "Set" then .set
  else if type = "Record" then .record
  else if type = "Extension" then .plain (extensionTy name)
  else if type = "EntityOrCommon" then entityOrCommon name
  else if type = "" then .plain .unspecified
  else .named type

end TypeForm

------------------------------------------------------------
-- Specifications
------------------------------------------------------------

namespace TypeSpec

mutual

/-
  The type that is specified inside a namespace. Bare names
  are looked up.
-/
def toTy
    (lookup : String → Resolving Ty)
    (ns : String) : TypeSpec → Resolving Ty
  | ⟨type, element, attributes, name, _, additional, _⟩ =>
      match TypeForm.of ns type name with
      | .plain ty => pure ty
      | .set => do
          let ty ← elementTy lookup ns element
          pure (.set ty)
      | .record => do
          let attrs ← recordAttrs lookup ns attributes
          pure (.record ⟨attrs, .ofBool additional⟩)
      | .named other => lookup other

/- The type of the elements of a set. -/
def elementTy
    (lookup : String → Resolving Ty)
    (ns : String) : Option TypeSpec → Resolving Ty
  | none => pure .unknown
  | some element => toTy lookup ns element

/- The attributes of a record. -/
def recordAttrs
    (lookup : String → Resolving Ty)
    (ns : String) :
    Option (List (String × TypeSpec)) →
      Resolving (List (String × AttributeType))
  | none => pure []
  | some attributes => attrTys lookup ns attributes

/- The types of attributes. -/
def attrTys
    (lookup : String → Resolving Ty)
    (ns : String) :
    List (String × TypeSpec) →
      Resolving (List (String × AttributeType))
  | [] => pure []
  | (name, spec) :: rest => do
      let type ← toTy lookup ns spec
      let types ← attrTys lookup ns rest
      pure ((name, ⟨type, spec.isRequired⟩) :: types)

end

end TypeSpec

------------------------------------------------------------
-- Names
------------------------------------------------------------

namespace CommonTypes

/-
  What a bare name means inside a namespace: the common
  type of the qualified name, else the common type of the
  name as it is written, else an entity type.
-/
def resolveName
    (common? : String → Resolving (Option Ty))
    (ns name : String) : Resolving Ty := do
  let qualified := EntityType.qualify ns name
  match ← common? qualified.name with
  | some type => pure type
  | none =>
      if qualified.name = name then pure (.entity qualified)
      else
        match ← common? name with
        | some type => pure type
        | none => pure (.entity qualified)

/- The declared names that are not in progress. -/
def waiting
    (declared : CommonTypes)
    (inProgress : List String) : List String :=
  declared.keys.filter fun name => name ∉ inProgress

/- A name that is found is among the keys. -/
theorem mem_keys_of_find?
    {declared : CommonTypes}
    {name : String}
    {found : String × TypeSpec}
    (h : declared.find? name = some found) :
    name ∈ declared.keys := by
  simp only [Assoc.find?, List.lookup_eq_some_iff] at h
  obtain ⟨before, after, hEq, _⟩ := h
  simp [Assoc.keys, hEq]

/-
  The common type of a name, if it is one, while the names
  in progress are being resolved.
-/
def resolve
    (declared : CommonTypes)
    (inProgress : List String)
    (name : String) : Resolving (Option Ty) := do
  let memo ← get
  match memo.find? name with
  | some type => pure (some type)
  | none =>
      match _found : declared.find? name with
      | none => pure none
      | some (ns, spec) =>
          if name ∈ inProgress then throw (.commonTypeCycle name)
          else
            let lookup :=
              resolveName
                (fun other =>
                  resolve declared (name :: inProgress) other)
                ns
            let type ← spec.toTy lookup ns
            modify fun memo => memo.insert name type
            pure (some type)
termination_by (declared.waiting inProgress).length
decreasing_by
  rename_i hNew
  exact
    Graph.filter_notMem_cons_length_lt
      (mem_keys_of_find? _found) hNew

/- The type that is specified inside a namespace. -/
def type
    (declared : CommonTypes)
    (ns : String)
    (spec : TypeSpec) : Resolving Ty :=
  spec.toTy (resolveName (declared.resolve []) ns) ns

/- Resolve names one after the other. -/
def resolveNames
    (declared : CommonTypes) : List String → Resolving Unit
  | [] => pure ()
  | name :: rest => do
      let _ ← declared.resolve [] name
      resolveNames declared rest

/-
  The types of all common types, also of those that nothing
  refers to.
-/
def resolveAll
    (declared : CommonTypes) : Resolving Memo := do
  declared.resolveNames declared.keys
  get

end CommonTypes

end PolicyCheck
