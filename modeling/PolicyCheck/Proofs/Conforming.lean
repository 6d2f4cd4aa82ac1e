import PolicyCheck.Conformance
import PolicyCheck.Proofs.Assoc

/-
  Which data is accepted. A value conforms to a type by
  recursion on both, without a type of its own in between;
  the checks of values, entities and requests accept
  exactly the data that conforms.

  Main declarations:
    * `Ty.conforms`
    * `Attribute.Admits`
    * `RecordOf.Accepts`
    * `Ty.fits_infer`
    * `RecordOf.faults_eq_nil_iff`
    * `Schema.checkEntity_eq_nil_iff`
    * `Schema.checkRequest_eq_none_iff`
    * `Schema.context_accepts_of_checkRequest`
    * `accepted_iff_conforming`
-/

------------------------------------------------------------
-- Conforming Values
------------------------------------------------------------

namespace PolicyCheck

namespace Ty

mutual

/-
  A value is of a type. Of a set only the first element
  counts, and a record may have more attributes than the
  declared ones.
-/
def conforms : Ty → Value → Bool
  | .unknown, _ => true
  | .unspecified, _ => true
  | .bool, .bool _ => true
  | .long, .long _ => true
  | .string, .string _ => true
  | .entity type, .entity uid => type = uid.type
  | .anyEntity, .entity _ => true
  | .set _, .set [] => true
  | .set element, .set (first :: _) => conforms element first
  | .record ⟨attrs, _⟩, .record values => conformsAttrs attrs values
  | .extension kind, .extension actual _ => kind = actual
  | _, _ => false

/-
  Every declared attribute is present with a value of its
  type, or absent and optional.
-/
def conformsAttrs :
    List (String × Attribute Ty) → List (String × Value) → Bool
  | [], _ => true
  | (name, ⟨type, required⟩) :: rest, values =>
      (match Assoc.find? values name with
        | some value => conforms type value
        | none => !required) &&
        conformsAttrs rest values

end

end Ty

/-
  A declared attribute is present with a value of its type,
  or absent and optional.
-/
def Attribute.Admits
    (declared : AttributeType)
    (name : String)
    (values : Assoc String Value) : Prop :=
  (∃ value,
    values.find? name = some value ∧
      declared.type.conforms value = true) ∨
    (values.find? name = none ∧ declared.required = false)

/-
  Every declared attribute admits the values, and in strict
  mode a closed record has no others.
-/
def RecordOf.Accepts
    (record : RecordType)
    (mode : Mode)
    (values : Assoc String Value) : Prop :=
  (∀ name declared, (name, declared) ∈ record.attrs →
    declared.Admits name values) ∧
    (mode = .strict → record.isOpen = false →
      ∀ name ∈ values.keys, name ∈ record.names)

------------------------------------------------------------
-- Matching The Inferred Type
------------------------------------------------------------

/- A set has the type of its first element, if it has one. -/
theorem Value.infer_set
    (elements : List Value) :
    (Value.set elements).infer =
      .set ((elements.head?.map Value.infer).getD .unknown) := by
  cases elements with
  | nil => simp [Value.infer]
  | cons first rest => simp [Value.infer]

/- The inferred attributes are those of the record. -/
theorem Value.find?_inferAttrs
    (values : List (String × Value))
    (name : String) :
    Assoc.find? (Value.inferAttrs values) name =
      (Assoc.find? values name).map fun value =>
        ⟨value.infer, true⟩ := by
  induction values with
  | nil => rfl
  | cons binding rest ih =>
      rcases binding with ⟨key, value⟩
      rw [Value.inferAttrs, Assoc.find?_cons, Assoc.find?_cons, ih]
      by_cases hKey : name = key
      · simp [hKey]
      · simp [hKey]

namespace Ty

/- Where nothing is known of a value it can always be used. -/
@[simp] theorem fits_unknown
    (ty : Ty) : fits ty .unknown = true := by
  cases ty <;> simp [fits]

mutual

/-
  A type fits the one that is inferred from a value exactly
  when the value conforms. The element of an empty set is
  inferred as unknown, which fits everything.
-/
theorem fits_infer :
    (ty : Ty) → (value : Value) →
      fits ty value.infer = conforms ty value
  | .unknown, _ => by simp [fits, conforms]
  | .unspecified, _ => by simp [fits, conforms]
  | .bool, value => by
      cases value <;> simp [fits, conforms, Value.infer, Value.infer_set]
  | .long, value => by
      cases value <;> simp [fits, conforms, Value.infer, Value.infer_set]
  | .string, value => by
      cases value <;> simp [fits, conforms, Value.infer, Value.infer_set]
  | .entity _, value => by
      cases value <;> simp [fits, conforms, Value.infer, Value.infer_set]
  | .anyEntity, value => by
      cases value <;> simp [fits, conforms, Value.infer, Value.infer_set]
  | .extension _, value => by
      cases value <;> simp [fits, conforms, Value.infer, Value.infer_set]
  | .set element, value => by
      cases value with
      | set elements =>
          cases elements with
          | nil => simp [fits, conforms, Value.infer]
          | cons first rest =>
              simpa [fits, conforms, Value.infer] using
                fits_infer element first
      | _ => simp [fits, conforms, Value.infer]
  | .record ⟨attrs, _⟩, value => by
      cases value with
      | record values =>
          simpa [fits, conforms, Value.infer] using
            fitsAttrs_inferAttrs attrs values
      | _ => simp [fits, conforms, Value.infer, Value.infer_set]

/- The same for the declared attributes of a record. -/
theorem fitsAttrs_inferAttrs :
    (attrs : List (String × Attribute Ty)) →
      (values : List (String × Value)) →
      fitsAttrs attrs (Value.inferAttrs values) =
        conformsAttrs attrs values
  | [], _ => by simp [fitsAttrs, conformsAttrs]
  | (name, ⟨type, required⟩) :: rest, values => by
      rw [fitsAttrs, conformsAttrs, Value.find?_inferAttrs,
        fitsAttrs_inferAttrs rest values]
      cases hFound : Assoc.find? values name with
      | none => rfl
      | some value => simp [fits_infer type value]

end

/- A record conforms when every declared attribute admits it. -/
theorem conformsAttrs_iff
    {attrs : List (String × Attribute Ty)}
    {values : Assoc String Value} :
    conformsAttrs attrs values = true ↔
      ∀ name declared, (name, declared) ∈ attrs →
        Attribute.Admits declared name values := by
  induction attrs with
  | nil => simp [conformsAttrs]
  | cons binding rest ih =>
      rcases binding with ⟨name, type, required⟩
      rw [conformsAttrs, Bool.and_eq_true, ih]
      have hHead :
          (match Assoc.find? values name with
            | some value => conforms type value
            | none => !required) = true ↔
            Attribute.Admits ⟨type, required⟩ name values := by
        unfold Attribute.Admits
        cases hFound : Assoc.find? values name with
        | none => simp
        | some value => simp
      rw [hHead]
      constructor
      · rintro ⟨hFirst, hRest⟩ other declared hMem
        rcases List.mem_cons.mp hMem with hHere | hThere
        · rcases Prod.mk.inj hHere with ⟨rfl, rfl⟩
          exact hFirst
        · exact hRest other declared hThere
      · intro hAll
        constructor
        · exact hAll name ⟨type, required⟩ List.mem_cons_self
        · intro other declared hMem
          exact hAll other declared (List.mem_cons_of_mem _ hMem)

end Ty

------------------------------------------------------------
-- Records
------------------------------------------------------------

namespace RecordOf

/- A declared attribute has no fault when it admits the values. -/
theorem declaredFault?_eq_none_iff
    {values : Assoc String Value}
    {name : String}
    {declared : AttributeType} :
    declaredFault? values name declared = none ↔
      declared.Admits name values := by
  unfold declaredFault? Attribute.Admits
  cases hFound : values.find? name with
  | none => simp
  | some value => simp [Ty.fits_infer]

/- No attribute is undeclared when all names are declared. -/
theorem undeclared_eq_nil_iff
    {record : RecordType}
    {values : Assoc String Value} :
    record.undeclared values = [] ↔
      ∀ name ∈ values.keys, name ∈ record.names := by
  unfold undeclared
  rw [List.filter_eq_nil_iff]
  constructor
  · intro hNone name hName
    have hFound := hNone name hName
    rw [Bool.not_eq_true, Option.isNone_eq_false_iff] at hFound
    exact Assoc.isSome_find?_iff.mp hFound
  · intro hAll name hName
    rw [Bool.not_eq_true, Option.isNone_eq_false_iff]
    exact Assoc.isSome_find?_iff.mpr (hAll name hName)

/- A record has no fault exactly when it is accepted. -/
theorem faults_eq_nil_iff
    {record : RecordType}
    {mode : Mode}
    {values : Assoc String Value} :
    record.faults mode values = [] ↔ record.Accepts mode values := by
  unfold faults Accepts
  rw [List.append_eq_nil_iff]
  apply and_congr
  · rw [List.filterMap_eq_nil_iff]
    constructor
    · intro hNone name declared hMem
      exact declaredFault?_eq_none_iff.mp
        (hNone (name, declared) hMem)
    · rintro hAll ⟨name, declared⟩ hMem
      exact declaredFault?_eq_none_iff.mpr
        (hAll name declared hMem)
  · cases mode with
    | permissive => simp [Mode.isStrict]
    | strict =>
        cases hOpen : record.isOpen with
        | true => simp [Mode.isStrict]
        | false => simp [Mode.isStrict, undeclared_eq_nil_iff]

end RecordOf

------------------------------------------------------------
-- Entities And Requests
------------------------------------------------------------

namespace Schema

variable {schema : Schema} {mode : Mode}

/- No parent is refused when all of their types are allowed. -/
theorem invalidAncestors_eq_nil_iff
    {info : EntityTypeInfo}
    {entity : Entity} :
    invalidAncestors info entity = [] ↔
      ∀ parent ∈ entity.parents, parent.type ∈ info.memberOf := by
  rw [List.eq_nil_iff_forall_not_mem]
  unfold invalidAncestors
  constructor
  · intro hNone parent hParent
    by_cases hAllowed : parent.type ∈ info.memberOf
    · exact hAllowed
    · refine absurd ?_ (hNone parent.type)
      rw [mem_distinct, List.mem_filter]
      refine ⟨List.mem_map.mpr ⟨parent, hParent, rfl⟩, ?_⟩
      simpa using hAllowed
  · intro hAll type hType
    rw [mem_distinct, List.mem_filter] at hType
    rcases List.mem_map.mp hType.1 with ⟨parent, hParent, rfl⟩
    have hAllowed := hAll parent hParent
    simp [hAllowed] at hType

/-
  An entity is found to be in order exactly when it is an
  action, or is of a declared type that accepts its
  attributes and allows its parents.
-/
theorem checkEntity_eq_nil_iff
    {entity : Entity} :
    schema.checkEntity mode entity = [] ↔
      entity.uid.type.isAction = true ∨
        ∃ info,
          schema.entityType? entity.uid.type = some info ∧
            info.shape.Accepts mode entity.attrs ∧
            ∀ parent ∈ entity.parents,
              parent.type ∈ info.memberOf := by
  unfold checkEntity
  cases hAction : entity.uid.type.isAction with
  | true => simp [hAction]
  | false =>
      cases hType : schema.entityType? entity.uid.type with
      | none => simp [hAction, hType]
      | some info =>
          simp [hAction, hType, RecordOf.faults_eq_nil_iff,
            invalidAncestors_eq_nil_iff]

/-
  A request is let through exactly when its action is
  declared, applies to its principal and its resource, and
  accepts its context.
-/
theorem checkRequest_eq_none_iff
    {request : Request} :
    schema.checkRequest mode request = none ↔
      ∃ info,
        schema.action? request.action = some info ∧
          request.principal.type ∈ info.principals ∧
          request.resource.type ∈ info.resources ∧
          info.context.Accepts mode request.context := by
  unfold checkRequest
  cases hAction : schema.action? request.action with
  | none => simp
  | some info =>
      by_cases hPrincipal :
          request.principal.type ∈ info.principals
      · by_cases hResource :
            request.resource.type ∈ info.resources
        · simp [hPrincipal, hResource,
            ← RecordOf.faults_eq_nil_iff]
        · simp [hPrincipal, hResource]
      · simp [hPrincipal]

/- An accepted entity conforms to the declaration of its type. -/
theorem shape_accepts_of_checkEntity
    {entity : Entity}
    {info : EntityTypeInfo}
    (hAction : entity.uid.type.isAction = false)
    (hInfo : schema.entityType? entity.uid.type = some info)
    (hAccepted : schema.checkEntity mode entity = []) :
    info.shape.Accepts mode entity.attrs := by
  rcases checkEntity_eq_nil_iff.mp hAccepted with
    hIsAction | ⟨other, hOther, hAccepts, _⟩
  · rw [hAction] at hIsAction
    exact Bool.noConfusion hIsAction
  · rw [hInfo] at hOther
    rw [Option.some.inj hOther]
    exact hAccepts

/- An accepted request conforms to the declaration of its action. -/
theorem context_accepts_of_checkRequest
    {request : Request}
    {info : ActionInfo}
    (hInfo : schema.action? request.action = some info)
    (hAccepted : schema.checkRequest mode request = none) :
    request.principal.type ∈ info.principals ∧
      request.resource.type ∈ info.resources ∧
      info.context.Accepts mode request.context := by
  rcases checkRequest_eq_none_iff.mp hAccepted with
    ⟨other, hOther, hParts⟩
  rw [hInfo] at hOther
  rw [Option.some.inj hOther]
  exact hParts

end Schema

------------------------------------------------------------
-- Exact Acceptance
------------------------------------------------------------

/-
  The checks accept exactly the data that conforms: values,
  entities in either mode, and requests in either mode.
-/
theorem accepted_iff_conforming :
    (∀ (ty : Ty) (value : Value),
      ty.fits value.infer = ty.conforms value) ∧
    (∀ (schema : Schema) (mode : Mode) (entity : Entity),
      schema.checkEntity mode entity = [] ↔
        entity.uid.type.isAction = true ∨
          ∃ info,
            schema.entityType? entity.uid.type = some info ∧
              info.shape.Accepts mode entity.attrs ∧
              ∀ parent ∈ entity.parents,
                parent.type ∈ info.memberOf) ∧
    (∀ (schema : Schema) (mode : Mode) (request : Request),
      schema.checkRequest mode request = none ↔
        ∃ info,
          schema.action? request.action = some info ∧
            request.principal.type ∈ info.principals ∧
            request.resource.type ∈ info.resources ∧
            info.context.Accepts mode request.context) := by
  refine ⟨Ty.fits_infer, ?_, ?_⟩
  · intro schema mode entity
    exact Schema.checkEntity_eq_nil_iff
  · intro schema mode request
    exact Schema.checkRequest_eq_none_iff

end PolicyCheck
