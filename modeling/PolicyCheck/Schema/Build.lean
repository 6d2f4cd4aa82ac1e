import PolicyCheck.Data.Distinct
import PolicyCheck.Schema.Basic
import PolicyCheck.Schema.Resolve

/-
  This file builds schemas from fragments, which may refer
  to each other's declarations. Names are qualified, common
  types are resolved, and unless it is allowed no list may
  name anything that is not declared.

  Key definitions include:
    * `tabulate`
    * `Declaration`
    * `CommonTypes.ofFragments`
    * `EntityTypeInfo.ofSpec`
    * `ActionInfo.ofSpec`
    * `Schema.undeclaredTypes`
    * `Schema.undeclaredActions`
    * `Schema.tables`
    * `Schema.build`
-/

namespace PolicyCheck

------------------------------------------------------------
-- Tables Of Declarations
------------------------------------------------------------

/-
  Make a table out of declarations one by one. None may be
  made under a key that is taken.
-/
def tabulate
    {α β κ : Type} [DecidableEq κ] [LT κ] [DecidableLT κ]
    (make : α → Resolving β)
    (key : β → κ)
    (taken : κ → SchemaError)
    (done : Assoc κ β) : List α → Resolving (Assoc κ β)
  | [] => pure done
  | a :: rest => do
      let b ← make a
      if done.contains (key b) then throw (taken (key b))
      else tabulate make key taken (done.insert (key b) b) rest

/- A declaration: its namespace, its name there, and what it says. -/
structure Declaration (α : Type) where
  ns : String
  name : String
  spec : α
deriving Repr

namespace Fragment

/- The declarations of one kind in all namespaces of fragments. -/
def declarations
    {α : Type}
    (table : NamespaceSpec → Assoc String α)
    (fragments : List Fragment) : List (Declaration α) :=
  fragments.flatMap fun fragment =>
    fragment.namespaces.flatMap fun (ns, spec) =>
      (table spec).map fun (name, a) => ⟨ns, name, a⟩

end Fragment

/- A declared common type under its qualified name. -/
def Declaration.commonType
    (declaration : Declaration TypeSpec) :
    String × (String × TypeSpec) :=
  ((EntityType.qualify declaration.ns declaration.name).name,
    (declaration.ns, declaration.spec))

/- The common types that fragments declare. -/
def CommonTypes.ofFragments
    (fragments : List Fragment) : Resolved CommonTypes := do
  let bindings ←
    (tabulate
      (fun declaration => pure declaration.commonType)
      Prod.fst
      .duplicateCommonType
      []
      (Fragment.declarations NamespaceSpec.commonTypes
        fragments)).run' []
  .ok bindings.values

------------------------------------------------------------
-- Entity Types
------------------------------------------------------------

/-
  Names qualified by a namespace, without repeats, in the
  order of their first occurrence.
-/
def qualifyAll
    (ns : String)
    (names : List String) : List EntityType :=
  distinct (names.map (EntityType.qualify ns))

/-
  The record type of an owner inside a namespace. Without a
  specification everything is allowed.
-/
def CommonTypes.recordType
    (declared : CommonTypes)
    (ns : String)
    (owner : RecordOwner) : Option TypeSpec → Resolving RecordType
  | none => pure .anything
  | some spec => do
      match ← declared.type ns spec with
      | .record record => pure record
      | _ => throw (.notRecord owner)

/- The entity type that is declared. -/
def EntityTypeInfo.ofSpec
    (declared : CommonTypes)
    (declaration : Declaration EntityTypeSpec) :
    Resolving EntityTypeInfo := do
  let ns := declaration.ns
  let name := EntityType.qualify ns declaration.name
  let shape ←
    declared.recordType ns (.shape name) declaration.spec.shape
  pure ⟨name, shape, qualifyAll ns declaration.spec.memberOfTypes⟩

------------------------------------------------------------
-- Actions
------------------------------------------------------------

/- The action that a reference inside a namespace means. -/
def ActionRef.toUid
    (ns : String)
    (ref : ActionRef) : EntityUid :=
  ⟨EntityType.qualify ns (ref.type.getD EntityType.actionName), ref.id⟩

namespace ActionSpec

/- The specification of the context of an action. -/
def contextSpec
    (spec : ActionSpec) : Option TypeSpec :=
  spec.context.or (spec.appliesTo.bind AppliesTo.context)

/- The names of the types of principals of an action. -/
def principalTypes
    (spec : ActionSpec) : List String :=
  (spec.appliesTo.map AppliesTo.principalTypes).getD []

/- The names of the types of resources of an action. -/
def resourceTypes
    (spec : ActionSpec) : List String :=
  (spec.appliesTo.map AppliesTo.resourceTypes).getD []

end ActionSpec

/- The action that is declared. -/
def ActionInfo.ofSpec
    (declared : CommonTypes)
    (declaration : Declaration ActionSpec) :
    Resolving ActionInfo := do
  let ns := declaration.ns
  let spec := declaration.spec
  let name : EntityUid :=
    ⟨EntityType.qualify ns EntityType.actionName, declaration.name⟩
  let context ←
    declared.recordType ns (.context name) spec.contextSpec
  pure
    ⟨name,
      qualifyAll ns spec.principalTypes,
      qualifyAll ns spec.resourceTypes,
      context,
      distinct ((spec.memberOf.getD []).map (ActionRef.toUid ns))⟩

------------------------------------------------------------
-- Undeclared Names
------------------------------------------------------------

namespace Schema

/- The types that are named in lists but not declared. -/
def undeclaredTypes
    (schema : Schema) : List EntityType :=
  let named :=
    schema.entityTypes.values.flatMap EntityTypeInfo.memberOf ++
      schema.actionInfos.flatMap fun action =>
        action.principals ++ action.resources
  ascending (named.filter fun type => !schema.knowsType type)

/- The actions that are named as groups but not declared. -/
def undeclaredActions
    (schema : Schema) : List EntityUid :=
  let named := schema.actionInfos.flatMap ActionInfo.memberOf
  ascending (named.filter fun uid => !schema.knowsAction uid)

/- Everything that is named is declared. -/
def checkDeclarations
    (schema : Schema) : Resolved Unit :=
  if !schema.undeclaredTypes.isEmpty then
    .error (.undeclaredTypes schema.undeclaredTypes)
  else if !schema.undeclaredActions.isEmpty then
    .error (.undeclaredActions schema.undeclaredActions)
  else
    .ok ()

------------------------------------------------------------
-- Schemas
------------------------------------------------------------

/-
  The tables of the schema that fragments declare. Entity
  types are looked at before actions, and common types that
  are not used come last. What one declaration resolves is
  known to those after it.
-/
def tables
    (declared : CommonTypes)
    (fragments : List Fragment) : Resolving Schema := do
  let entityTypes ←
    tabulate
      (EntityTypeInfo.ofSpec declared)
      EntityTypeInfo.name
      .duplicateEntityType
      []
      (Fragment.declarations NamespaceSpec.entityTypes fragments)
  let actions ←
    tabulate
      (ActionInfo.ofSpec declared)
      ActionInfo.name
      .duplicateAction
      []
      (Fragment.declarations NamespaceSpec.actions fragments)
  let commonTypes ← declared.resolveAll
  pure ⟨entityTypes, actions, commonTypes⟩

/- The schema that fragments declare together. -/
def build
    (allowUnknown : Bool)
    (fragments : List Fragment) : Resolved Schema := do
  let declared ← CommonTypes.ofFragments fragments
  let schema ← (tables declared fragments).run' []
  if allowUnknown then .ok schema
  else do
    schema.checkDeclarations
    .ok schema

end Schema

end PolicyCheck
