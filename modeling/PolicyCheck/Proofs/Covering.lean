import PolicyCheck.Proofs.Samples

/-
  When every value of one type is also one of another. Such
  a type covers the other, and covering is decided by
  comparing the two types. Where a type does not cover
  another there is a value that tells them apart, made of
  sample values.

  Main declarations:
    * `Ty.covers`
    * `Ty.covers_refl`
    * `Ty.conforms_of_covers`
    * `Ty.exists_refused_of_covers_eq_false`
    * `Ty.parted_of_coversAttrs_eq_false`
-/

------------------------------------------------------------
-- Covering
------------------------------------------------------------

namespace PolicyCheck

namespace Ty

mutual

/-
  Every value of the second type is one of the first. Other
  than in fitting, nothing but the unknown covers the
  unknown, and only the type of all entities covers itself.
-/
def covers : Ty → Ty → Bool
  | .unknown, _ => true
  | .unspecified, _ => true
  | .bool, .bool => true
  | .long, .long => true
  | .string, .string => true
  | .entity a, .entity b => a = b
  | .anyEntity, .entity _ => true
  | .anyEntity, .anyEntity => true
  | .set a, .set b => covers a b
  | .record ⟨as, _⟩, .record b => coversAttrs as b.attrs
  | .extension a, .extension b => a = b
  | _, _ => false

/-
  Every attribute covers the one of the same name, and is
  required only if that one is. Of an attribute that is not
  declared on the other side nothing is known.
-/
def coversAttrs :
    List (String × Attribute Ty) →
      List (String × Attribute Ty) → Bool
  | [], _ => true
  | (name, ⟨a, required⟩) :: as, bs =>
      (match Assoc.find? bs name with
        | some b => covers a b.type && (!required || b.required)
        | none => a.isUnknown && !required) &&
        coversAttrs as bs

end

/- Attributes cover others when each covers the one of its name. -/
theorem coversAttrs_of_forall
    {as bs : List (String × Attribute Ty)}
    (hAll :
      ∀ name a, (name, a) ∈ as →
        ∃ b, Assoc.find? bs name = some b ∧
          covers a.type b.type = true ∧
          (a.required = true → b.required = true)) :
    coversAttrs as bs = true := by
  induction as with
  | nil => simp [coversAttrs]
  | cons binding rest ih =>
      rcases binding with ⟨name, type, required⟩
      have hRest : coversAttrs rest bs = true := by
        apply ih
        intro other a hMem
        exact hAll other a (List.mem_cons_of_mem _ hMem)
      rcases hAll name ⟨type, required⟩ List.mem_cons_self with
        ⟨b, hFound, hCovers, hRequired⟩
      have hType : covers type b.type = true := hCovers
      rw [coversAttrs, hRest, hFound, Bool.and_true]
      cases required with
      | false => simp [hType]
      | true => simp [hType, hRequired rfl]

mutual

/- An ordered type covers itself. -/
theorem covers_refl :
    (ty : Ty) → ty.Ordered → covers ty ty = true
  | .record ⟨attrs, _⟩, hOrdered => by
      rw [Ordered] at hOrdered
      rw [covers]
      apply coversAttrs_of_forall
      intro name declared hMem
      exact
        ⟨declared, Assoc.find?_of_mem hOrdered.1.nodup hMem,
          covers_refl_of_mem attrs hOrdered.2 name declared hMem,
          id⟩
  | .set element, hOrdered => by
      rw [Ordered] at hOrdered
      rw [covers]
      exact covers_refl element hOrdered
  | .bool, _ => by simp [covers]
  | .long, _ => by simp [covers]
  | .string, _ => by simp [covers]
  | .entity _, _ => by simp [covers]
  | .anyEntity, _ => by simp [covers]
  | .extension _, _ => by simp [covers]
  | .unknown, _ => by simp [covers]
  | .unspecified, _ => by simp [covers]

/- The types of ordered attributes cover themselves. -/
theorem covers_refl_of_mem :
    (attrs : List (String × Attribute Ty)) → OrderedAttrs attrs →
      ∀ name declared, (name, declared) ∈ attrs →
        covers declared.type declared.type = true
  | [], _, _, _, hMem => by simp at hMem
  | (_, ⟨type, _⟩) :: rest, hOrdered, name, declared, hMem => by
      rw [OrderedAttrs] at hOrdered
      rcases List.mem_cons.mp hMem with hHere | hThere
      · rcases Prod.mk.inj hHere with ⟨rfl, rfl⟩
        exact covers_refl type hOrdered.1
      · exact
          covers_refl_of_mem rest hOrdered.2 name declared hThere

end

/- Everything conforms to a type of which nothing is known. -/
theorem conforms_of_isUnknown
    {ty : Ty}
    (hUnknown : ty.isUnknown = true)
    (value : Value) :
    conforms ty value = true := by
  cases ty with
  | unknown => simp [conforms]
  | unspecified => simp [conforms]
  | _ => cases hUnknown

mutual

/- What conforms to a type conforms to those that cover it. -/
theorem conforms_of_covers :
    (a b : Ty) → covers a b = true →
      ∀ value, conforms b value = true → conforms a value = true
  | .unknown, _, _, value, _ => by simp [conforms]
  | .unspecified, _, _, value, _ => by simp [conforms]
  | .bool, b, hCovers, value, hValue => by
      cases b <;> simp_all [covers]
  | .long, b, hCovers, value, hValue => by
      cases b <;> simp_all [covers]
  | .string, b, hCovers, value, hValue => by
      cases b <;> simp_all [covers]
  | .entity _, b, hCovers, value, hValue => by
      cases b <;> simp_all [covers]
  | .anyEntity, b, hCovers, value, hValue => by
      cases b <;> cases value <;> simp_all [covers, conforms]
  | .extension _, b, hCovers, value, hValue => by
      cases b <;> simp_all [covers]
  | .set a, b, hCovers, value, hValue => by
      cases b with
      | set b =>
          have hInner : covers a b = true := by
            simpa [covers] using hCovers
          cases value with
          | set elements =>
              cases elements with
              | nil => simp [conforms]
              | cons first rest =>
                  have hFirst : conforms b first = true := by
                    simpa [conforms] using hValue
                  simpa [conforms] using
                    conforms_of_covers a b hInner first hFirst
          | _ => simp [conforms] at hValue
      | _ => simp [covers] at hCovers
  | .record ⟨as, _⟩, b, hCovers, value, hValue => by
      cases b with
      | record b =>
          have hInner : coversAttrs as b.attrs = true := by
            simpa [covers] using hCovers
          cases value with
          | record values =>
              have hAttrs :
                  conformsAttrs b.attrs values = true := by
                simpa [conforms] using hValue
              simpa [conforms] using
                conformsAttrs_of_coversAttrs as b.attrs hInner
                  values hAttrs
          | _ => simp [conforms] at hValue
      | _ => simp [covers] at hCovers

/- The same for the attributes of records. -/
theorem conformsAttrs_of_coversAttrs :
    (as bs : List (String × Attribute Ty)) →
      coversAttrs as bs = true →
      ∀ values, conformsAttrs bs values = true →
        conformsAttrs as values = true
  | [], _, _, values, _ => by simp [conformsAttrs]
  | (name, ⟨a, required⟩) :: as, bs, hCovers, values, hValues => by
      rw [coversAttrs, Bool.and_eq_true] at hCovers
      have hRest :=
        conformsAttrs_of_coversAttrs as bs hCovers.2 values hValues
      rw [conformsAttrs, hRest, Bool.and_true]
      cases hDeclared : Assoc.find? bs name with
      | none =>
          have hFree : a.isUnknown = true ∧ required = false := by
            simpa [hDeclared] using hCovers.1
          cases hFound : Assoc.find? values name with
          | none => simp [hFree.2]
          | some value => exact conforms_of_isUnknown hFree.1 value
      | some b =>
          have hBoth :
              covers a b.type = true ∧
                (required = false ∨ b.required = true) := by
            simpa [hDeclared] using hCovers.1
          have hAdmits :=
            conformsAttrs_iff.mp hValues name b
              (Assoc.mem_of_find? hDeclared)
          rcases hAdmits with
            ⟨value, hFound, hValue⟩ | ⟨hAbsent, hOptional⟩
          · rw [hFound]
            exact
              conforms_of_covers a b.type hBoth.1 value hValue
          · rw [hAbsent]
            rcases hBoth.2 with hFree | hRequired
            · simp [hFree]
            · rw [hOptional] at hRequired
              exact Bool.noConfusion hRequired

end

------------------------------------------------------------
-- Telling Types Apart
------------------------------------------------------------

/-
  There are values of the second attributes that the first
  ones refuse, and none of them is undeclared on both sides.
-/
def Parted
    (as bs : List (String × Attribute Ty)) : Prop :=
  ∃ values : Assoc String Value,
    (Value.record values).Ordered ∧
      (∀ name ∈ values.keys,
        name ∈ Assoc.keys as ∨ name ∈ Assoc.keys bs) ∧
      conformsAttrs bs values = true ∧
      conformsAttrs as values = false

section Parted

variable {as bs : List (String × Attribute Ty)}
variable {name : String} {a : Ty} {required : Bool}
variable (hAscending : Assoc.Ascending bs)
variable (hOrdered : OrderedAttrs bs)

include hAscending hOrdered

/- A value of the one type that the other refuses parts them. -/
theorem parted_of_value
    {value : Value}
    (hValue : value.Ordered)
    (hConforms :
      ∀ declared, (name, declared) ∈ bs →
        conforms declared.type value = true)
    (hRefused : conforms a value = false) :
    Parted ((name, ⟨a, required⟩) :: as) bs := by
  refine
    ⟨Assoc.insert name value (sampleAttrs bs),
      Value.record_insert_ordered
        (record_sampleAttrs_ordered hAscending hOrdered) name
        hValue, ?_, ?_, ?_⟩
  · intro key hKey
    rcases Assoc.mem_keys_insert hKey with rfl | hSample
    · exact Or.inl List.mem_cons_self
    · rw [keys_sampleAttrs] at hSample
      exact Or.inr hSample
  · rw [conformsAttrs_iff]
    intro other declared hDeclared
    exact
      admits_sampleAttrs_insert hAscending hOrdered hConforms
        hDeclared
  · rw [conformsAttrs, Assoc.find?_insert_self]
    simp [hRefused]

/- An attribute that only the one requires parts them. -/
theorem parted_of_absence
    (hOptional :
      ∀ declared, (name, declared) ∈ bs →
        declared.required = false) :
    Parted ((name, ⟨a, true⟩) :: as) bs := by
  refine
    ⟨Assoc.erase name (sampleAttrs bs),
      Value.record_erase_ordered
        (record_sampleAttrs_ordered hAscending hOrdered) name,
      ?_, ?_, ?_⟩
  · intro key hKey
    right
    rcases List.mem_map.mp hKey with ⟨binding, hBinding, rfl⟩
    rw [← keys_sampleAttrs]
    exact Assoc.mem_keys_of_mem (List.mem_filter.mp hBinding).1
  · rw [conformsAttrs_iff]
    intro other declared hDeclared
    exact
      admits_sampleAttrs_erase hAscending hOrdered hOptional
        hDeclared
  · rw [conformsAttrs, Assoc.find?_erase_self]
    simp

end Parted

/- An entity of a type other than the given one. -/
theorem exists_other_entity
    (type : EntityType) :
    ∃ uid : EntityUid, uid.type ≠ type := by
  refine ⟨⟨⟨type.name ++ "x"⟩, ""⟩, ?_⟩
  intro hEq
  have hLength := congrArg (fun t => t.name.length) hEq
  simp at hLength

/-
  A type that does not cover another refuses one of its
  values if it refuses the sample. Where the other type
  accepts everything there is no need of a sample.
-/
theorem exists_refused_of_sample
    {a b : Ty}
    (hOrdered : b.Ordered)
    (hCovers : covers a b = false)
    (hSample : b.isUnknown = false → conforms a b.sample = false) :
    ∃ value : Value,
      value.Ordered ∧ conforms b value = true ∧
        conforms a value = false := by
  cases hUnknown : b.isUnknown with
  | false =>
      exact
        ⟨b.sample, sample_ordered b hOrdered,
          conforms_sample b hOrdered, hSample hUnknown⟩
  | true =>
      have hKnown : a.isUnknown = false := by
        cases a <;> simp_all [covers, isUnknown]
      exact
        ⟨a.refused, refused_ordered a,
          conforms_of_isUnknown hUnknown _,
          conforms_refused hKnown⟩

mutual

/-
  A type that does not cover another refuses one of its
  values. Only inside sets and records, and for entities of
  any type, is that another value than the sample.
-/
theorem exists_refused_of_covers_eq_false :
    (a b : Ty) → b.Ordered → covers a b = false →
      ∃ value : Value,
        value.Ordered ∧ conforms b value = true ∧
          conforms a value = false
  | .unknown, _, _, hCovers => by simp [covers] at hCovers
  | .unspecified, _, _, hCovers => by simp [covers] at hCovers
  | .bool, b, hOrdered, hCovers => by
      apply exists_refused_of_sample hOrdered hCovers
      cases b <;> simp_all [covers, isUnknown, conforms, sample]
  | .long, b, hOrdered, hCovers => by
      apply exists_refused_of_sample hOrdered hCovers
      cases b <;> simp_all [covers, isUnknown, conforms, sample]
  | .string, b, hOrdered, hCovers => by
      apply exists_refused_of_sample hOrdered hCovers
      cases b <;> simp_all [covers, isUnknown, conforms, sample]
  | .anyEntity, b, hOrdered, hCovers => by
      apply exists_refused_of_sample hOrdered hCovers
      cases b <;> simp_all [covers, isUnknown, conforms, sample]
  | .extension _, b, hOrdered, hCovers => by
      apply exists_refused_of_sample hOrdered hCovers
      cases b <;> simp_all [covers, isUnknown, conforms, sample]
  | .entity type, b, hOrdered, hCovers => by
      by_cases hAny : b = .anyEntity
      · subst hAny
        rcases exists_other_entity type with ⟨uid, hUid⟩
        refine ⟨.entity uid, ?_, ?_, ?_⟩
        · simp [Value.Ordered]
        · simp [conforms]
        · simpa [conforms] using Ne.symm hUid
      · apply exists_refused_of_sample hOrdered hCovers
        cases b <;> simp_all [covers, isUnknown, conforms, sample]
  | .set a, b, hOrdered, hCovers => by
      cases b with
      | set b =>
          rw [Ordered] at hOrdered
          rw [covers] at hCovers
          rcases exists_refused_of_covers_eq_false a b hOrdered
              hCovers with
            ⟨value, hValue, hConforms, hRefused⟩
          refine ⟨.set [value], ?_, ?_, ?_⟩
          · simpa [Value.Ordered, Value.OrderedElements] using
              hValue
          · simpa [conforms] using hConforms
          · simpa [conforms] using hRefused
      | _ =>
          apply exists_refused_of_sample hOrdered hCovers
          simp [isUnknown, conforms, sample]
  | .record ⟨as, _⟩, b, hOrdered, hCovers => by
      cases b with
      | record b =>
          rw [Ordered] at hOrdered
          rw [covers] at hCovers
          rcases parted_of_coversAttrs_eq_false as b.attrs
              hOrdered.1 hOrdered.2 hCovers with
            ⟨values, hValues, _, hConforms, hRefused⟩
          refine ⟨.record values, hValues, ?_, ?_⟩
          · simpa [conforms] using hConforms
          · simpa [conforms] using hRefused
      | _ =>
          apply exists_refused_of_sample hOrdered hCovers
          simp [isUnknown, conforms, sample]

/- The same for the attributes of records. -/
theorem parted_of_coversAttrs_eq_false :
    (as bs : List (String × Attribute Ty)) →
      Assoc.Ascending bs → OrderedAttrs bs →
      coversAttrs as bs = false → Parted as bs
  | [], _, _, _, hCovers => by simp [coversAttrs] at hCovers
  | (name, ⟨a, required⟩) :: as, bs, hAscending, hOrdered,
      hCovers => by
      rw [coversAttrs, Bool.and_eq_false_iff] at hCovers
      rcases hCovers with hHead | hTail
      · cases hDeclared : Assoc.find? bs name with
        | none =>
            have hNone :
                ∀ declared, (name, declared) ∉ bs := by
              intro declared hMem
              exact
                Assoc.find?_eq_none_iff.mp hDeclared
                  (Assoc.mem_keys_of_mem hMem)
            have hCause :
                a.isUnknown = false ∨ required = true := by
              simpa only [hDeclared, Bool.and_eq_false_iff,
                Bool.not_eq_false'] using hHead
            rcases hCause with hKnown | hRequired
            · refine
                parted_of_value hAscending hOrdered
                  (refused_ordered a) ?_ (conforms_refused hKnown)
              intro declared hMem
              exact absurd hMem (hNone declared)
            · rw [hRequired]
              refine parted_of_absence hAscending hOrdered ?_
              intro declared hMem
              exact absurd hMem (hNone declared)
        | some b =>
            have hOnly :
                ∀ declared, (name, declared) ∈ bs →
                  declared = b := by
              intro declared hMem
              exact
                Assoc.eq_of_mem_of_mem hAscending.nodup hMem
                  (Assoc.mem_of_find? hDeclared)
            have hCause :
                covers a b.type = false ∨
                  (required = true ∧ b.required = false) := by
              simpa only [hDeclared, Bool.and_eq_false_iff,
                Bool.or_eq_false_iff, Bool.not_eq_false'] using
                hHead
            rcases hCause with hType | ⟨hRequired, hOptional⟩
            · have hB : b.type.Ordered :=
                orderedAttrs_iff.mp hOrdered name b
                  (Assoc.mem_of_find? hDeclared)
              rcases exists_refused_of_covers_eq_false a b.type hB
                  hType with
                ⟨value, hValue, hConforms, hRefused⟩
              refine
                parted_of_value hAscending hOrdered hValue ?_
                  hRefused
              intro declared hMem
              rw [hOnly declared hMem]
              exact hConforms
            · rw [hRequired]
              refine parted_of_absence hAscending hOrdered ?_
              intro declared hMem
              rw [hOnly declared hMem]
              exact hOptional
      · rcases parted_of_coversAttrs_eq_false as bs hAscending
            hOrdered hTail with
          ⟨values, hValues, hKeys, hConforms, hRefused⟩
        refine ⟨values, hValues, ?_, hConforms, ?_⟩
        · intro key hKey
          rcases hKeys key hKey with hFirst | hSecond
          · exact Or.inl (List.mem_cons_of_mem _ hFirst)
          · exact Or.inr hSecond
        · rw [conformsAttrs, hRefused, Bool.and_false]

end

end Ty

end PolicyCheck
