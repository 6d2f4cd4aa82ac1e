import PolicyCheck.Proofs.Conforming
import PolicyCheck.Proofs.Ordered

/-
  A sample value of every type, and records that differ from
  a sample in one attribute. Samples show that a check which
  looks too lenient or too strict is met by some data.

  Main declarations:
    * `Value.orderedAttrs_iff`
    * `Ty.sample`
    * `Ty.refused`
    * `Ty.sample_ordered`
    * `Ty.conforms_sample`
    * `Ty.admits_sampleAttrs_insert`
    * `Ty.admits_sampleAttrs_erase`
-/

------------------------------------------------------------
-- Ordered Records
------------------------------------------------------------

namespace PolicyCheck

namespace Assoc

variable {κ α : Type} [DecidableEq κ]

/- The bindings of all other keys. -/
def erase
    (key : κ)
    (bindings : Assoc κ α) : Assoc κ α :=
  bindings.filter fun binding => binding.1 ≠ key

/- What was erased is not found. -/
theorem find?_erase_self
    (bindings : Assoc κ α)
    (key : κ) :
    (bindings.erase key).find? key = none := by
  rw [find?_eq_none_iff]
  intro hKey
  rcases List.mem_map.mp hKey with ⟨binding, hBinding, rfl⟩
  simp [erase] at hBinding

/- Erasing one key does not change what another one is bound to. -/
theorem find?_erase_of_ne
    {key other : κ}
    (hOther : other ≠ key)
    (bindings : Assoc κ α) :
    (bindings.erase key).find? other = bindings.find? other := by
  unfold erase
  induction bindings with
  | nil => rfl
  | cons binding rest ih =>
      rcases binding with ⟨k, value⟩
      by_cases hKey : k = key
      · have hNe : other ≠ k := by
          rw [hKey]
          exact hOther
        rw [List.filter_cons_of_neg (by simpa using hKey), ih,
          find?_cons, if_neg hNe]
      · rw [List.filter_cons_of_pos (by simpa using hKey),
          find?_cons, find?_cons, ih]

end Assoc

namespace Value

/- Attributes are ordered when each of their values is. -/
theorem orderedAttrs_iff
    {values : List (String × Value)} :
    OrderedAttrs values ↔
      ∀ name value, (name, value) ∈ values → value.Ordered := by
  induction values with
  | nil => simp [OrderedAttrs]
  | cons binding rest ih =>
      rcases binding with ⟨name, value⟩
      rw [OrderedAttrs, ih]
      constructor
      · rintro ⟨hFirst, hRest⟩ other found hMem
        rcases List.mem_cons.mp hMem with hHere | hThere
        · rcases Prod.mk.inj hHere with ⟨rfl, rfl⟩
          exact hFirst
        · exact hRest other found hThere
      · intro hAll
        constructor
        · exact hAll name value List.mem_cons_self
        · intro other found hMem
          exact hAll other found (List.mem_cons_of_mem _ hMem)

/- An ordered record stays ordered when an attribute is bound. -/
theorem record_insert_ordered
    {values : Assoc String Value}
    (hValues : (Value.record values).Ordered)
    (name : String)
    {value : Value}
    (hValue : value.Ordered) :
    (Value.record (values.insert name value)).Ordered := by
  rw [Ordered] at hValues ⊢
  refine ⟨Assoc.ascending_insert hValues.1 name value, ?_⟩
  rw [orderedAttrs_iff]
  intro other found hMem
  rcases Assoc.mem_insert hMem with hNew | hOld
  · rcases Prod.mk.inj hNew with ⟨rfl, rfl⟩
    exact hValue
  · exact orderedAttrs_iff.mp hValues.2 other found hOld

/- An ordered record stays ordered when an attribute is erased. -/
theorem record_erase_ordered
    {values : Assoc String Value}
    (hValues : (Value.record values).Ordered)
    (name : String) :
    (Value.record (values.erase name)).Ordered := by
  rw [Ordered] at hValues ⊢
  constructor
  · exact
      hValues.1.sublist
        (List.Sublist.map Prod.fst (List.filter_sublist))
  · rw [orderedAttrs_iff]
    intro other found hMem
    exact
      orderedAttrs_iff.mp hValues.2 other found
        (List.mem_filter.mp hMem).1

end Value

------------------------------------------------------------
-- Samples
------------------------------------------------------------

/- A literal of a kind. -/
def ExtensionKind.sample : ExtensionKind → String
  | .decimal => "0.0"
  | .ipaddr => "127.0.0.1"
  | .datetime => "2024-01-01"
  | .duration => "1h"

namespace Ty

mutual

/- A value of a type. Records have all declared attributes. -/
def sample : Ty → Value
  | .bool => .bool true
  | .long => .long 0
  | .string => .string ""
  | .entity type => .entity ⟨type, ""⟩
  | .anyEntity => .entity ⟨⟨"Entity"⟩, ""⟩
  | .set _ => .set []
  | .record ⟨attrs, _⟩ => .record (sampleAttrs attrs)
  | .extension kind => .extension kind kind.sample
  | .unknown => .bool true
  | .unspecified => .bool true

/- Samples of attributes. -/
def sampleAttrs :
    List (String × Attribute Ty) → List (String × Value)
  | [] => []
  | (name, ⟨type, _⟩) :: rest =>
      (name, sample type) :: sampleAttrs rest

end

/- A value that conforms to no type but those accepting all. -/
def refused : Ty → Value
  | .bool => .long 0
  | _ => .bool true

/- The refused value has no records in it. -/
theorem refused_ordered
    (ty : Ty) : ty.refused.Ordered := by
  cases ty <;> simp [refused, Value.Ordered]

/- A type that does not accept everything refuses this value. -/
theorem conforms_refused
    {ty : Ty}
    (hKnown : ty.isUnknown = false) :
    conforms ty ty.refused = false := by
  cases ty with
  | unknown => cases hKnown
  | unspecified => cases hKnown
  | _ => simp [refused, conforms]

/- The sample of an attribute is found under its name. -/
theorem find?_sampleAttrs
    (attrs : List (String × Attribute Ty))
    (name : String) :
    Assoc.find? (sampleAttrs attrs) name =
      (Assoc.find? attrs name).map fun declared =>
        declared.type.sample := by
  induction attrs with
  | nil => rfl
  | cons binding rest ih =>
      rcases binding with ⟨key, type, required⟩
      rw [sampleAttrs, Assoc.find?_cons, Assoc.find?_cons, ih]
      by_cases hKey : name = key
      · simp [hKey]
      · simp [hKey]

/- The sample has the declared attributes and no others. -/
@[simp] theorem keys_sampleAttrs
    (attrs : List (String × Attribute Ty)) :
    Assoc.keys (sampleAttrs attrs) = Assoc.keys attrs := by
  induction attrs with
  | nil => rfl
  | cons binding rest ih =>
      rcases binding with ⟨key, type, required⟩
      simpa [sampleAttrs, Assoc.keys] using ih

mutual

/- The sample of an ordered type is ordered. -/
theorem sample_ordered :
    (ty : Ty) → ty.Ordered → ty.sample.Ordered
  | .record ⟨attrs, _⟩, hOrdered => by
      rw [Ordered] at hOrdered
      rw [sample, Value.Ordered]
      refine ⟨?_, sampleAttrs_ordered attrs hOrdered.2⟩
      unfold Assoc.Ascending
      rw [keys_sampleAttrs]
      exact hOrdered.1
  | .bool, _ => by simp [sample, Value.Ordered]
  | .long, _ => by simp [sample, Value.Ordered]
  | .string, _ => by simp [sample, Value.Ordered]
  | .entity _, _ => by simp [sample, Value.Ordered]
  | .anyEntity, _ => by simp [sample, Value.Ordered]
  | .set _, _ => by
      simp [sample, Value.Ordered, Value.OrderedElements]
  | .extension _, _ => by simp [sample, Value.Ordered]
  | .unknown, _ => by simp [sample, Value.Ordered]
  | .unspecified, _ => by simp [sample, Value.Ordered]

/- The same for samples of attributes. -/
theorem sampleAttrs_ordered :
    (attrs : List (String × Attribute Ty)) →
      OrderedAttrs attrs → Value.OrderedAttrs (sampleAttrs attrs)
  | [], _ => by simp [sampleAttrs, Value.OrderedAttrs]
  | (_, ⟨type, _⟩) :: rest, hOrdered => by
      rw [OrderedAttrs] at hOrdered
      rw [sampleAttrs, Value.OrderedAttrs]
      exact
        ⟨sample_ordered type hOrdered.1,
          sampleAttrs_ordered rest hOrdered.2⟩

end

/-
  Every declared attribute of an ordered record admits the
  samples, once the sample of each type conforms to it.
-/
theorem admits_of_conforms_samples
    {attrs : List (String × Attribute Ty)}
    (hAscending : Assoc.Ascending attrs)
    (hSamples :
      ∀ name declared, (name, declared) ∈ attrs →
        conforms declared.type declared.type.sample = true)
    {name : String}
    {declared : AttributeType}
    (hDeclared : (name, declared) ∈ attrs) :
    declared.Admits name (sampleAttrs attrs) := by
  refine
    Or.inl ⟨declared.type.sample, ?_,
      hSamples name declared hDeclared⟩
  rw [find?_sampleAttrs,
    Assoc.find?_of_mem hAscending.nodup hDeclared, Option.map_some]

mutual

/- The sample of an ordered type conforms to it. -/
theorem conforms_sample :
    (ty : Ty) → ty.Ordered → conforms ty ty.sample = true
  | .record ⟨attrs, _⟩, hOrdered => by
      rw [Ordered] at hOrdered
      rw [sample, conforms, conformsAttrs_iff]
      intro name declared hDeclared
      exact
        admits_of_conforms_samples hOrdered.1
          (conforms_sample_of_mem attrs hOrdered.2) hDeclared
  | .bool, _ => by simp [sample, conforms]
  | .long, _ => by simp [sample, conforms]
  | .string, _ => by simp [sample, conforms]
  | .entity _, _ => by simp [sample, conforms]
  | .anyEntity, _ => by simp [sample, conforms]
  | .set _, _ => by simp [sample, conforms]
  | .extension _, _ => by simp [sample, conforms]
  | .unknown, _ => by simp [conforms]
  | .unspecified, _ => by simp [conforms]

/- The same for the types of attributes. -/
theorem conforms_sample_of_mem :
    (attrs : List (String × Attribute Ty)) → OrderedAttrs attrs →
      ∀ name declared, (name, declared) ∈ attrs →
        conforms declared.type declared.type.sample = true
  | [], _, _, _, hMem => by simp at hMem
  | (_, ⟨type, _⟩) :: rest, hOrdered, name, declared, hMem => by
      rw [OrderedAttrs] at hOrdered
      rcases List.mem_cons.mp hMem with hHere | hThere
      · rcases Prod.mk.inj hHere with ⟨rfl, rfl⟩
        exact conforms_sample type hOrdered.1
      · exact
          conforms_sample_of_mem rest hOrdered.2 name declared
            hThere

end

------------------------------------------------------------
-- One Attribute Changed
------------------------------------------------------------

section Changed

variable {attrs : List (String × Attribute Ty)}
variable (hAscending : Assoc.Ascending attrs)
variable (hOrdered : OrderedAttrs attrs)

include hAscending hOrdered

/- The sample of ordered attributes is an ordered record. -/
theorem record_sampleAttrs_ordered :
    (Value.record (sampleAttrs attrs)).Ordered := by
  have hRecord : (Ty.record ⟨attrs, .openAttributes⟩).Ordered := by
    rw [Ordered]
    exact ⟨hAscending, hOrdered⟩
  simpa [sample] using sample_ordered _ hRecord

/- A declared attribute admits the samples. -/
theorem admits_sampleAttrs
    {name : String}
    {declared : AttributeType}
    (hDeclared : (name, declared) ∈ attrs) :
    declared.Admits name (sampleAttrs attrs) :=
  admits_of_conforms_samples hAscending
    (conforms_sample_of_mem attrs hOrdered) hDeclared

/-
  One attribute of a sample can be bound to any value of its
  type, and one that is not declared to any value at all.
-/
theorem admits_sampleAttrs_insert
    {changed : String}
    {value : Value}
    (hValue :
      ∀ declared, (changed, declared) ∈ attrs →
        conforms declared.type value = true)
    {name : String}
    {declared : AttributeType}
    (hDeclared : (name, declared) ∈ attrs) :
    declared.Admits name
      (Assoc.insert changed value (sampleAttrs attrs)) := by
  by_cases hName : name = changed
  · subst hName
    exact
      Or.inl ⟨value, Assoc.find?_insert_self name value _,
        hValue declared hDeclared⟩
  · unfold Attribute.Admits
    rw [Assoc.find?_insert_of_ne hName]
    exact admits_sampleAttrs hAscending hOrdered hDeclared

/- One attribute of a sample can be left out if it is optional. -/
theorem admits_sampleAttrs_erase
    {changed : String}
    (hOptional :
      ∀ declared, (changed, declared) ∈ attrs →
        declared.required = false)
    {name : String}
    {declared : AttributeType}
    (hDeclared : (name, declared) ∈ attrs) :
    declared.Admits name
      (Assoc.erase changed (sampleAttrs attrs)) := by
  by_cases hName : name = changed
  · subst hName
    exact
      Or.inr ⟨Assoc.find?_erase_self _ name,
        hOptional declared hDeclared⟩
  · unfold Attribute.Admits
    rw [Assoc.find?_erase_of_ne hName]
    exact admits_sampleAttrs hAscending hOrdered hDeclared

end Changed

end Ty

end PolicyCheck
