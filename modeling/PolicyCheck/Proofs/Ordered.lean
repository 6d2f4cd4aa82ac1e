import Mathlib.Tactic.SplitIfs
import PolicyCheck.Proofs.Tables
import PolicyCheck.Value.Basic

/-
  Records that list their attributes in strictly ascending
  order at every depth. Specifications keep that order when
  they are resolved, so the record types of a schema that is
  built from ordered fragments are ordered.

  Main declarations:
    * `Ty.Ordered`
    * `Ty.parts_induction`
    * `Value.Ordered`
    * `TypeSpec.Ordered`
    * `Fragment.Ordered`
    * `TypeSpec.inlined_ordered`
    * `CommonTypes.Complete.ordered`
    * `Schema.shape_ordered_of_build`
    * `Schema.context_ordered_of_build`
-/

------------------------------------------------------------
-- Ordered Data
------------------------------------------------------------

namespace PolicyCheck

namespace Ty

mutual

/- Every record type in a type lists its attributes in order. -/
def Ordered : Ty → Prop
  | .set element => Ordered element
  | .record ⟨attrs, _⟩ =>
      Assoc.Ascending attrs ∧ OrderedAttrs attrs
  | _ => True

/- The types of attributes are ordered. -/
def OrderedAttrs : List (String × Attribute Ty) → Prop
  | [] => True
  | (_, ⟨type, _⟩) :: rest => Ordered type ∧ OrderedAttrs rest

end

/- Attributes are ordered when each of them is. -/
theorem orderedAttrs_iff
    {attrs : List (String × Attribute Ty)} :
    OrderedAttrs attrs ↔
      ∀ name declared, (name, declared) ∈ attrs →
        declared.type.Ordered := by
  induction attrs with
  | nil => simp [OrderedAttrs]
  | cons binding rest ih =>
      rcases binding with ⟨name, type, required⟩
      rw [OrderedAttrs, ih]
      constructor
      · rintro ⟨hFirst, hRest⟩ other declared hMem
        rcases List.mem_cons.mp hMem with hHere | hThere
        · rcases Prod.mk.inj hHere with ⟨rfl, rfl⟩
          exact hFirst
        · exact hRest other declared hThere
      · intro hAll
        constructor
        · exact hAll name ⟨type, required⟩ List.mem_cons_self
        · intro other declared hMem
          exact hAll other declared (List.mem_cons_of_mem _ hMem)

/- The types that a type is made of. -/
def parts : Ty → List Ty
  | .set element => [element]
  | .record shape => shape.attrs.map fun binding => binding.2.type
  | _ => []

/- The type of an attribute is a part of the record type. -/
theorem mem_parts_of_mem
    {r : RecordType}
    {name : String}
    {declared : AttributeType}
    (hMem : (name, declared) ∈ r.attrs) :
    declared.type ∈ (Ty.record r).parts :=
  List.mem_map.mpr ⟨(name, declared), hMem, rfl⟩

/- A part is smaller than the whole. -/
theorem sizeOf_lt_of_mem_parts
    {part ty : Ty}
    (hPart : part ∈ ty.parts) :
    sizeOf part < sizeOf ty := by
  cases ty with
  | set element =>
      rw [List.mem_singleton.mp hPart, set.sizeOf_spec]
      omega
  | record shape =>
      rcases List.mem_map.mp hPart with ⟨⟨name, declared⟩, hMem, rfl⟩
      have hAttr := List.sizeOf_lt_of_mem hMem
      rcases shape with ⟨attrs, openness⟩
      rcases declared with ⟨type, required⟩
      simp only [Prod.mk.sizeOf_spec, Attribute.mk.sizeOf_spec]
        at hAttr
      simp only [record.sizeOf_spec, RecordOf.mk.sizeOf_spec]
      omega
  | _ => cases hPart

/-
  What holds of a type as soon as it holds of its parts
  holds of every type.
-/
@[elab_as_elim]
theorem parts_induction
    {P : Ty → Prop}
    (ty : Ty)
    (step : ∀ ty : Ty, (∀ part ∈ ty.parts, P part) → P ty) :
    P ty :=
  step ty fun part _ => parts_induction part step
termination_by sizeOf ty
decreasing_by exact sizeOf_lt_of_mem_parts ‹_›

end Ty

namespace RecordOf

variable {r : RecordType}

/- An ordered record declares no name twice. -/
theorem names_nodup
    (hOrdered : (Ty.record r).Ordered) :
    r.names.Nodup := by
  rw [Ty.Ordered] at hOrdered
  exact hOrdered.1.nodup

/- The types of the attributes of an ordered record are ordered. -/
theorem type_ordered_of_mem
    (hOrdered : (Ty.record r).Ordered)
    {name : String}
    {declared : AttributeType}
    (hMem : (name, declared) ∈ r.attrs) :
    declared.type.Ordered := by
  rw [Ty.Ordered] at hOrdered
  exact Ty.orderedAttrs_iff.mp hOrdered.2 name declared hMem

end RecordOf

namespace Value

mutual

/- Every record in a value binds its attributes in order. -/
def Ordered : Value → Prop
  | .set elements => OrderedElements elements
  | .record values => Assoc.Ascending values ∧ OrderedAttrs values
  | _ => True

/- The elements of a set are ordered. -/
def OrderedElements : List Value → Prop
  | [] => True
  | first :: rest => Ordered first ∧ OrderedElements rest

/- The attributes of a record are ordered. -/
def OrderedAttrs : List (String × Value) → Prop
  | [] => True
  | (_, value) :: rest => Ordered value ∧ OrderedAttrs rest

end

end Value

namespace TypeSpec

mutual

/- Every record in a specification lists its attributes in order. -/
def Ordered : TypeSpec → Prop
  | ⟨_, element, attributes, _, _, _, _⟩ =>
      OrderedElement element ∧ OrderedAttributes attributes

/- The specification of an element is ordered. -/
def OrderedElement : Option TypeSpec → Prop
  | none => True
  | some element => Ordered element

/- The specification of attributes is ordered. -/
def OrderedAttributes : Option (List (String × TypeSpec)) → Prop
  | none => True
  | some attributes =>
      Assoc.Ascending attributes ∧ OrderedTable attributes

/- All specifications of a table are ordered. -/
def OrderedTable : List (String × TypeSpec) → Prop
  | [] => True
  | (_, spec) :: rest => Ordered spec ∧ OrderedTable rest

end

end TypeSpec

/- All types that the declarations of a namespace specify are ordered. -/
structure NamespaceSpec.Ordered
    (spec : NamespaceSpec) : Prop where
  common :
    ∀ name type, (name, type) ∈ spec.commonTypes → type.Ordered
  shapes :
    ∀ name entityType, (name, entityType) ∈ spec.entityTypes →
      ∀ shape, entityType.shape = some shape → shape.Ordered
  contexts :
    ∀ name action, (name, action) ∈ spec.actions →
      ∀ context, action.contextSpec = some context →
        context.Ordered

/- All types that a fragment specifies are ordered. -/
def Fragment.Ordered
    (fragment : Fragment) : Prop :=
  ∀ ns spec, (ns, spec) ∈ fragment.namespaces → spec.Ordered

------------------------------------------------------------
-- Inlining
------------------------------------------------------------

namespace TypeSpec

variable {meaning : String → Ty} {ns : String}

/- A type that has no parts has no records in it. -/
theorem plainTy_ordered
    (ns type : String)
    (name : Option String) :
    (plainTy ns type name).Ordered := by
  unfold plainTy
  split_ifs
  · simp [Ty.Ordered]
  · simp [Ty.Ordered]
  · simp [Ty.Ordered]
  · cases given? name <;> simp [Ty.Ordered]
  · cases name.bind ExtensionKind.ofName? <;> simp [Ty.Ordered]
  · simp [Ty.Ordered]

mutual

/-
  An ordered specification has an ordered type, provided
  that the names in it stand for ordered types.
-/
theorem inlined_ordered :
    (spec : TypeSpec) → spec.Ordered →
      (∀ name ∈ names spec, (meaning name).Ordered) →
      (inlined meaning ns spec).Ordered
  | ⟨type, element, attributes, name, _, additional, _⟩,
      hOrdered, hMeaning => by
      rw [Ordered] at hOrdered
      rw [names] at hMeaning
      rw [inlined]
      split_ifs at hMeaning ⊢
      · simp only [Ty.Ordered]
        exact elementInlined_ordered element hOrdered.1 hMeaning
      · simp only [Ty.Ordered]
        exact recordInlined_ordered attributes hOrdered.2 hMeaning
      · cases hBare : bareName? type name with
        | none => exact plainTy_ordered ns type name
        | some other => exact hMeaning other (by simp [hBare])

/- The same for the element of a set. -/
theorem elementInlined_ordered :
    (element : Option TypeSpec) → OrderedElement element →
      (∀ name ∈ elementNames element, (meaning name).Ordered) →
      (elementInlined meaning ns element).Ordered
  | none, _, _ => by
      rw [elementInlined]
      simp [Ty.Ordered]
  | some element, hOrdered, hMeaning => by
      rw [OrderedElement] at hOrdered
      rw [elementNames] at hMeaning
      rw [elementInlined]
      exact inlined_ordered element hOrdered hMeaning

/- The same for the attributes of a record. -/
theorem recordInlined_ordered :
    (attributes : Option (List (String × TypeSpec))) →
      OrderedAttributes attributes →
      (∀ name ∈ recordNames attributes,
        (meaning name).Ordered) →
      Assoc.Ascending (recordInlined meaning ns attributes) ∧
        Ty.OrderedAttrs (recordInlined meaning ns attributes)
  | none, _, _ => by
      rw [recordInlined]
      exact ⟨Assoc.ascending_nil, by simp [Ty.OrderedAttrs]⟩
  | some attributes, hOrdered, hMeaning => by
      rw [OrderedAttributes] at hOrdered
      rw [recordNames] at hMeaning
      rw [recordInlined]
      rcases tableInlined_ordered attributes hOrdered.2 hMeaning
        with ⟨hKeys, hTypes⟩
      refine ⟨?_, hTypes⟩
      rw [Assoc.Ascending, hKeys]
      exact hOrdered.1

/- The attributes keep their names, and their types are ordered. -/
theorem tableInlined_ordered :
    (attributes : List (String × TypeSpec)) →
      OrderedTable attributes →
      (∀ name ∈ tableNames attributes,
        (meaning name).Ordered) →
      Assoc.keys (tableInlined meaning ns attributes) =
          Assoc.keys attributes ∧
        Ty.OrderedAttrs (tableInlined meaning ns attributes)
  | [], _, _ => by
      rw [tableInlined]
      exact ⟨rfl, by simp [Ty.OrderedAttrs]⟩
  | (name, spec) :: rest, hOrdered, hMeaning => by
      rw [OrderedTable] at hOrdered
      rw [tableNames] at hMeaning
      rw [tableInlined]
      have hFirst :=
        inlined_ordered spec hOrdered.1 fun other hOther =>
          hMeaning other (List.mem_append_left _ hOther)
      rcases tableInlined_ordered rest hOrdered.2
          (fun other hOther =>
            hMeaning other (List.mem_append_right _ hOther)) with
        ⟨hKeys, hRest⟩
      refine ⟨?_, ?_⟩
      · simpa [Assoc.keys] using hKeys
      · rw [Ty.OrderedAttrs]
        exact ⟨hFirst, hRest⟩

end

end TypeSpec

namespace CommonTypes

variable {declared : CommonTypes} {types : Memo}

/- A bare name means an ordered type if what it refers to is one. -/
theorem meaning_ordered
    {ns name : String}
    (hTypes :
      ∀ other type, declared.referent? ns name = some other →
        types.find? other = some type → type.Ordered) :
    (declared.meaning types ns name).Ordered := by
  unfold meaning
  split
  · rename_i other hReferent
    cases hFound : types.find? other with
    | none => simp [Ty.Ordered]
    | some type => exact hTypes other type hReferent hFound
  · simp [Ty.Ordered]

/-
  Common types with ordered definitions are ordered. The
  induction is on their references.
-/
theorem Complete.ordered
    (hTypes : declared.Complete types)
    (hDeclared :
      ∀ name ns spec, declared.find? name = some (ns, spec) →
        spec.Ordered)
    {name : String}
    {type : Ty}
    (hType : types.find? name = some type) :
    type.Ordered := by
  have hName : name ∈ types.keys :=
    Assoc.mem_keys_of_mem (Assoc.mem_of_find? hType)
  have hGrounded := hTypes.grounded name hName
  induction hGrounded generalizing type with
  | intro name _ ih =>
      rcases hTypes.inlined name type hType with
        ⟨ns, spec, hFound, rfl⟩
      apply TypeSpec.inlined_ordered spec
        (hDeclared name ns spec hFound)
      intro bare hBare
      apply meaning_ordered
      intro other found hReferent hThere
      exact
        ih other ⟨ns, spec, hFound, bare, hBare, hReferent⟩
          hThere
          (hTypes.bound hName hFound bare hBare other hReferent)

end CommonTypes

------------------------------------------------------------
-- Schemas
------------------------------------------------------------

/- A declaration comes from a namespace of a fragment. -/
theorem Fragment.exists_of_mem_declarations
    {α : Type}
    {table : NamespaceSpec → Assoc String α}
    {fragments : List Fragment}
    {declaration : Declaration α}
    (hMem : declaration ∈ declarations table fragments) :
    ∃ fragment ∈ fragments, ∃ spec,
      (declaration.ns, spec) ∈ fragment.namespaces ∧
        (declaration.name, declaration.spec) ∈ table spec := by
  rcases List.mem_flatMap.mp hMem with ⟨fragment, hFragment, hIn⟩
  rcases List.mem_flatMap.mp hIn with ⟨⟨ns, spec⟩, hSpec, hNames⟩
  rcases List.mem_map.mp hNames with ⟨⟨name, a⟩, hName, rfl⟩
  exact ⟨fragment, hFragment, spec, hSpec, hName⟩

/- Ordered fragments declare ordered common types. -/
theorem CommonTypes.ordered_of_ofFragments
    {fragments : List Fragment}
    (hOrdered : ∀ fragment ∈ fragments, fragment.Ordered)
    {declared : CommonTypes}
    (hDeclared : ofFragments fragments = .ok declared)
    (name ns : String)
    (spec : TypeSpec)
    (hFound : declared.find? name = some (ns, spec)) :
    spec.Ordered := by
  have hPerm := (ofFragments_eq_ok_iff.mp hDeclared).2
  have hMem := hPerm.mem_iff.mp (Assoc.mem_of_find? hFound)
  rcases List.mem_map.mp hMem with
    ⟨declaration, hDeclaration, hEq⟩
  rcases Fragment.exists_of_mem_declarations hDeclaration with
    ⟨fragment, hFragment, nsSpec, hNs, hName⟩
  have hSpec : declaration.spec = spec :=
    (Prod.mk.inj (Prod.mk.inj hEq).2).2
  rw [← hSpec]
  exact (hOrdered fragment hFragment _ nsSpec hNs).common _ _ hName

/- The record type of an ordered specification is ordered. -/
theorem CommonTypes.inlinedRecord?_ordered
    {declared : CommonTypes}
    {types : Memo}
    (hTypes :
      ∀ name type, types.find? name = some type → type.Ordered)
    {ns : String}
    {spec? : Option TypeSpec}
    (hSpec : ∀ spec, spec? = some spec → spec.Ordered)
    {record : RecordType}
    (hRecord :
      declared.inlinedRecord? types ns spec? = some record) :
    (Ty.record record).Ordered := by
  cases spec? with
  | none =>
      rw [← Option.some.inj hRecord]
      simp [RecordOf.anything, Ty.Ordered, Ty.OrderedAttrs,
        Assoc.Ascending, Assoc.keys]
  | some spec =>
      have hInlined :
          (spec.inlined (declared.meaning types ns) ns).Ordered := by
        apply TypeSpec.inlined_ordered spec (hSpec spec rfl)
        intro bare _
        exact meaning_ordered fun other type _ => hTypes other type
      rw [inlinedRecord?] at hRecord
      split at hRecord
      · rename_i found hFound
        rw [← Option.some.inj hRecord, ← hFound]
        exact hInlined
      · cases hRecord

namespace Schema

variable {allowUnknown : Bool}
variable {fragments : List Fragment}
variable {schema : Schema}

/- The shapes of a schema of ordered fragments are ordered. -/
theorem shape_ordered_of_build
    (hBuilt : build allowUnknown fragments = .ok schema)
    (hOrdered : ∀ fragment ∈ fragments, fragment.Ordered)
    {type : EntityType}
    {info : EntityTypeInfo}
    (hInfo : schema.entityType? type = some info) :
    (Ty.record info.shape).Ordered := by
  rcases exists_declares_of_build hBuilt with
    ⟨declared, hDeclared, hSchema⟩
  rcases hSchema.types.mem_iff.mp (Assoc.mem_of_find? hInfo) with
    ⟨_, declaration, hDeclaration, hMade⟩
  rcases Fragment.exists_of_mem_declarations hDeclaration with
    ⟨fragment, hFragment, nsSpec, hNs, hName⟩
  rcases Option.map_eq_some_iff.mp hMade with ⟨shape, hShape, rfl⟩
  apply CommonTypes.inlinedRecord?_ordered _ _ hShape
  · intro name common hCommon
    exact
      hSchema.common.ordered
        (CommonTypes.ordered_of_ofFragments hOrdered hDeclared)
        hCommon
  · exact
      (hOrdered fragment hFragment _ nsSpec hNs).shapes _ _ hName

/- The contexts of a schema of ordered fragments are ordered. -/
theorem context_ordered_of_build
    (hBuilt : build allowUnknown fragments = .ok schema)
    (hOrdered : ∀ fragment ∈ fragments, fragment.Ordered)
    {uid : EntityUid}
    {info : ActionInfo}
    (hInfo : schema.action? uid = some info) :
    (Ty.record info.context).Ordered := by
  rcases exists_declares_of_build hBuilt with
    ⟨declared, hDeclared, hSchema⟩
  rcases hSchema.actions.mem_iff.mp (Assoc.mem_of_find? hInfo) with
    ⟨_, declaration, hDeclaration, hMade⟩
  rcases Fragment.exists_of_mem_declarations hDeclaration with
    ⟨fragment, hFragment, nsSpec, hNs, hName⟩
  rcases Option.map_eq_some_iff.mp hMade with
    ⟨context, hContext, rfl⟩
  apply CommonTypes.inlinedRecord?_ordered _ _ hContext
  · intro name common hCommon
    exact
      hSchema.common.ordered
        (CommonTypes.ordered_of_ofFragments hOrdered hDeclared)
        hCommon
  · exact
      (hOrdered fragment hFragment _ nsSpec hNs).contexts _ _ hName

end Schema

end PolicyCheck
