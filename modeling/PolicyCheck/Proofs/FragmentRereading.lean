import Mathlib.Tactic.SplitIfs
import PolicyCheck.Proofs.Rereading

/-
  Fragments that are written and read again. What is read
  from a document, in whatever layout, has its tables in
  ascending order, and every such structure comes back from
  its written form.

  Main declarations:
    * `TypeSpec.toJson_eq`
    * `TypeSpec.comesBack_of_decode`
    * `EntityTypeSpec.comesBack_of_decode`
    * `ActionSpec.comesBack_of_decode`
    * `NamespaceSpec.comesBack_of_decode`
    * `fragment_comes_back`
-/

namespace PolicyCheck

open Json (Denotes ComesBack TableOf Writes)

------------------------------------------------------------
-- Names And Notes
------------------------------------------------------------

/- A list of names comes back. -/
theorem denotes_namesToJson
    (names : List String) :
    Denotes (Json.asList Json.asString) (namesToJson names) names :=
  Denotes.list fun name _ => Json.denotes_str name

/- Annotations in ascending order come back. -/
theorem denotes_annotations
    {annotations : Annotations}
    (hAscending : annotations.Ascending) :
    Denotes (Json.asMap Json.asString)
      (.obj (annotations.mapValues Json.str)) annotations :=
  Denotes.map ⟨hAscending, fun note _ => Json.denotes_str note.2⟩

/- Annotations are read in ascending order. -/
theorem ascending_of_asMap
    {j : Json}
    {annotations : Annotations}
    (hOk : j.asMap Json.asString = .ok annotations) :
    annotations.Ascending :=
  (Json.tableOf_asMap (fun _ _ _ _ => trivial) hOk :
    TableOf (fun _ => True) annotations).ascending

------------------------------------------------------------
-- Types
------------------------------------------------------------

namespace TypeSpec

/- A table of types is written like other tables. -/
theorem tableToJson_eq
    (table : Assoc String TypeSpec) :
    tableToJson table = table.mapValues toJson := by
  induction table with
  | nil => rw [tableToJson]; rfl
  | cons binding rest ih =>
      rw [tableToJson, ih]
      rfl

/- A type is written field by field. -/
theorem toJson_eq
    (spec : TypeSpec) :
    spec.toJson =
      .obj (
        [("type", .str spec.type)] ++
        optionalMember "element" toJson spec.element ++
        optionalMember "attributes"
          (fun table => .obj (Assoc.mapValues toJson table))
          spec.attributes ++
        optionalMember "name" Json.str spec.name ++
        optionalMember "required" Json.bool spec.required ++
        (if spec.additionalAttributes then
          [("additionalAttributes", .bool true)] else []) ++
        annotationsMember spec.annotations) := by
  have hElement :
      ∀ element : Option TypeSpec,
        elementMember element =
          optionalMember "element" toJson element := by
    intro element
    cases element <;> rw [elementMember, optionalMember]
  have hAttributes :
      ∀ attributes : Option (Assoc String TypeSpec),
        attributesMember attributes =
          optionalMember "attributes"
            (fun table => .obj (Assoc.mapValues toJson table))
            attributes := by
    intro attributes
    cases attributes with
    | none => rw [attributesMember, optionalMember]
    | some table =>
        rw [attributesMember, optionalMember, tableToJson_eq]
  rcases spec with
    ⟨type, element, attributes, name, required, additional, notes⟩
  rw [toJson, hElement, hAttributes]

/- A type is not written as `null`. -/
theorem toJson_ne_null
    (spec : TypeSpec) :
    spec.toJson ≠ .null := by
  simp [toJson_eq]

/- What a type holds comes back. -/
structure PartsComeBack
    (spec : TypeSpec) : Prop where
  element :
    ∀ element, spec.element = some element →
      ComesBack decode toJson element
  attributes :
    ∀ table, spec.attributes = some table →
      TableOf (ComesBack decode toJson) table
  annotations : Assoc.Ascending spec.annotations

/- A type comes back if what it holds does. -/
theorem comesBack_of_parts
    {spec : TypeSpec}
    (hParts : spec.PartsComeBack) :
    ComesBack decode toJson spec := by
  rcases spec with
    ⟨type, element, attributes, name, required, additional, notes⟩
  have hType :
      Writes readField ["type"] [("type", .str type)] default
        (named type) :=
    Writes.field readField "type" named (Json.denotes_str type) rfl
  have hTable :
      ∀ table, attributes = some table →
        Denotes (Json.asOption decodeTable)
          (.obj (Assoc.mapValues toJson table)) (some table) := by
    intro table hSome
    rw [decodeTable_eq]
    exact (Denotes.map (hParts.attributes table hSome)).option (by simp)
  have hAdditional :
      Writes readField ["additionalAttributes"]
        (if additional then
          [("additionalAttributes", .bool true)] else [])
        ⟨type, element, attributes, name, required, false, []⟩
        ⟨type, element, attributes, name, required, additional,
          []⟩ := by
    cases additional with
    | false => exact Writes.skip _ _ _
    | true =>
        exact
          Writes.field readField _
            (fun additional =>
              ⟨type, element, attributes, name, required, additional,
                []⟩)
            (Json.denotes_bool true) rfl
  have hWrites :=
    hType
      |>.append
        (Writes.optional readField "element"
          (fun element => ⟨type, element, none, none, none, false, []⟩)
          (fun inner hSome =>
            (hParts.element inner hSome).option (toJson_ne_null inner))
          (fun _ => rfl))
      |>.append
        (Writes.optional readField "attributes"
          (fun attributes =>
            ⟨type, element, attributes, none, none, false, []⟩)
          hTable (fun _ => rfl))
      |>.append
        (Writes.optional readField "name"
          (fun name =>
            ⟨type, element, attributes, name, none, false, []⟩)
          (fun text _ => (Json.denotes_str text).option (by simp))
          (fun _ => rfl))
      |>.append
        (Writes.optional readField "required"
          (fun required =>
            ⟨type, element, attributes, name, required, false, []⟩)
          (fun flag _ => (Json.denotes_bool flag).option (by simp))
          (fun _ => rfl))
      |>.append hAdditional
      |>.append
        (Writes.unlessEmpty readField "annotations"
          (fun notes =>
            ⟨type, element, attributes, name, required, additional,
              notes⟩)
          (denotes_annotations hParts.annotations) rfl)
  rw [ComesBack, toJson_eq, decode_eq]
  exact hWrites.denotes (by decide) (by simp [layout])

/- A field that is read keeps what a type holds. -/
theorem partsComeBack_of_readField
    {name : String}
    {j : Json}
    (hDecode :
      ∀ spec, decode j = .ok spec → ComesBack decode toJson spec)
    (hTable :
      ∀ table, decodeTable j = .ok table →
        TableOf (ComesBack decode toJson) table)
    {spec result : TypeSpec}
    (hOk : readField name j spec = .ok result)
    (hParts : spec.PartsComeBack) :
    result.PartsComeBack := by
  have ⟨hElement, hAttributes, hAnnotations⟩ := hParts
  unfold readField setField at hOk
  split_ifs at hOk
  all_goals
    rcases exists_ok_of_bind hOk with ⟨value, hValue, hDone⟩
    rw [← Except.ok.inj hDone]
  · exact ⟨hElement, hAttributes, hAnnotations⟩
  · exact
      ⟨Json.good_of_asOption hDecode hValue, hAttributes,
        hAnnotations⟩
  · exact
      ⟨hElement, Json.good_of_asOption hTable hValue, hAnnotations⟩
  · exact ⟨hElement, hAttributes, hAnnotations⟩
  · exact ⟨hElement, hAttributes, hAnnotations⟩
  · exact ⟨hElement, hAttributes, hAnnotations⟩
  · exact ⟨hElement, hAttributes, ascending_of_asMap hValue⟩

/- A type that was read comes back, and so does a table of types. -/
theorem comesBack_of_read
    (j : Json) :
    (∀ spec, decode j = .ok spec → ComesBack decode toJson spec) ∧
      ∀ table, decodeTable j = .ok table →
        TableOf (ComesBack decode toJson) table := by
  induction j using Json.parts_induction with
  | step j ih =>
      constructor
      · intro spec hOk
        rw [decode_eq] at hOk
        have hDefault : PartsComeBack default := by
          refine ⟨?_, ?_, Assoc.ascending_nil⟩
          · intro element hNone
            cases hNone
          · intro table hNone
            cases hNone
        apply comesBack_of_parts
        refine
          Json.Layout.decode_induct_of_parts PartsComeBack ?_ hDefault
            hOk
        intro part hPart name a b
        exact
          partsComeBack_of_readField (ih part hPart).1
            (ih part hPart).2
      · intro table hOk
        rw [decodeTable_eq] at hOk
        exact
          Json.tableOf_asMap (fun part hPart => (ih part hPart).1) hOk

/- A type that was read comes back. -/
theorem comesBack_of_decode
    {j : Json}
    {spec : TypeSpec}
    (hOk : decode j = .ok spec) :
    ComesBack decode toJson spec :=
  (comesBack_of_read j).1 spec hOk

/- A type that may be absent comes back if it was read. -/
theorem comesBack_of_asOption
    {j : Json}
    {value : Option TypeSpec}
    (hOk : j.asOption decode = .ok value) :
    ∀ spec, value = some spec → ComesBack decode toJson spec :=
  Json.good_of_asOption (fun _ => comesBack_of_decode) hOk

end TypeSpec

------------------------------------------------------------
-- Entity Types
------------------------------------------------------------

namespace EntityTypeSpec

/- What an entity type holds comes back. -/
structure PartsComeBack
    (spec : EntityTypeSpec) : Prop where
  shape :
    ∀ type, spec.shape = some type →
      ComesBack TypeSpec.decode TypeSpec.toJson type
  tags :
    ∀ type, spec.tags = some type →
      ComesBack TypeSpec.decode TypeSpec.toJson type
  annotations : spec.annotations.Ascending

/- An entity type comes back if what it holds does. -/
theorem comesBack_of_parts
    {spec : EntityTypeSpec}
    (hParts : spec.PartsComeBack) :
    ComesBack decode toJson spec := by
  rcases spec with ⟨types, shape, tags, notes⟩
  have hTypes :
      Writes setField ["memberOfTypes"]
        (if types.isEmpty then []
          else [("memberOfTypes", namesToJson types)])
        default ⟨types, none, none, []⟩ :=
    Writes.unlessEmpty setField "memberOfTypes"
      (fun types => ⟨types, none, none, []⟩)
      (denotes_namesToJson types) rfl
  have hWrites :=
    hTypes
      |>.append
        (Writes.optional setField "shape"
          (fun shape => ⟨types, shape, none, []⟩)
          (fun type hSome =>
            (hParts.shape type hSome).option type.toJson_ne_null)
          (fun _ => rfl))
      |>.append
        (Writes.optional setField "tags"
          (fun tags => ⟨types, shape, tags, []⟩)
          (fun type hSome =>
            (hParts.tags type hSome).option type.toJson_ne_null)
          (fun _ => rfl))
      |>.append
        (Writes.unlessEmpty setField "annotations"
          (fun notes => ⟨types, shape, tags, notes⟩)
          (denotes_annotations hParts.annotations) rfl)
  exact hWrites.denotes (by decide) (by simp [layout])

/- An entity type that was read comes back. -/
theorem comesBack_of_decode
    {j : Json}
    {spec : EntityTypeSpec}
    (hOk : decode j = .ok spec) :
    ComesBack decode toJson spec := by
  have hDefault : PartsComeBack default := by
    refine ⟨?_, ?_, Assoc.ascending_nil⟩
    · intro type hNone
      cases hNone
    · intro type hNone
      cases hNone
  apply comesBack_of_parts
  refine Json.Layout.decode_induct PartsComeBack ?_ hDefault hOk
  intro name j a b hSet hParts
  have ⟨hShape, hTags, hAnnotations⟩ := hParts
  unfold setField at hSet
  split_ifs at hSet
  all_goals
    rcases exists_ok_of_bind hSet with ⟨value, hValue, hDone⟩
    rw [← Except.ok.inj hDone]
  · exact ⟨hShape, hTags, hAnnotations⟩
  · exact
      ⟨TypeSpec.comesBack_of_asOption hValue, hTags, hAnnotations⟩
  · exact
      ⟨hShape, TypeSpec.comesBack_of_asOption hValue, hAnnotations⟩
  · exact ⟨hShape, hTags, ascending_of_asMap hValue⟩

end EntityTypeSpec

------------------------------------------------------------
-- Actions
------------------------------------------------------------

namespace AppliesTo

/- What an action applies to comes back if its context does. -/
theorem comesBack_of_context
    {spec : AppliesTo}
    (hContext :
      ∀ type, spec.context = some type →
        ComesBack TypeSpec.decode TypeSpec.toJson type) :
    ComesBack decode toJson spec := by
  rcases spec with ⟨resources, principals, context⟩
  have hResources :
      Writes setField ["resourceTypes"]
        [("resourceTypes", namesToJson resources)] default
        ⟨resources, [], none⟩ :=
    Writes.field setField "resourceTypes"
      (fun resources => ⟨resources, [], none⟩)
      (denotes_namesToJson resources) rfl
  have hPrincipals :
      Writes setField ["principalTypes"]
        [("principalTypes", namesToJson principals)]
        ⟨resources, [], none⟩ ⟨resources, principals, none⟩ :=
    Writes.field setField "principalTypes"
      (fun principals => ⟨resources, principals, none⟩)
      (denotes_namesToJson principals) rfl
  have hWrites :=
    hResources
      |>.append hPrincipals
      |>.append
        (Writes.optional setField "context"
          (fun context => ⟨resources, principals, context⟩)
          (fun type hSome =>
            (hContext type hSome).option type.toJson_ne_null)
          (fun _ => rfl))
  exact hWrites.denotes (by decide) (by simp [layout])

/- What an action applies to comes back if it was read. -/
theorem comesBack_of_decode
    {j : Json}
    {spec : AppliesTo}
    (hOk : decode j = .ok spec) :
    ComesBack decode toJson spec := by
  apply comesBack_of_context
  refine
    Json.Layout.decode_induct
      (fun spec =>
        ∀ type, spec.context = some type →
          ComesBack TypeSpec.decode TypeSpec.toJson type)
      ?_ (by intro type hNone; cases hNone) hOk
  intro name j a b hSet hContext
  unfold setField at hSet
  split_ifs at hSet
  all_goals
    rcases exists_ok_of_bind hSet with ⟨value, hValue, hDone⟩
    rw [← Except.ok.inj hDone]
  · exact hContext
  · exact hContext
  · exact TypeSpec.comesBack_of_asOption hValue

end AppliesTo

/- A reference to an action comes back. -/
theorem ActionRef.comesBack
    (ref : ActionRef) :
    ComesBack decode toJson ref := by
  rcases ref with ⟨id, type⟩
  have hId :
      Writes setField ["id"] [("id", .str id)] default ⟨id, none⟩ :=
    Writes.field setField "id" (fun id => ⟨id, none⟩)
      (Json.denotes_str id) rfl
  have hType :
      Writes setField ["type"] (optionalMember "type" Json.str type)
        ⟨id, none⟩ ⟨id, type⟩ :=
    Writes.optional setField "type" (fun type => ⟨id, type⟩)
      (fun name _ => (Json.denotes_str name).option (by simp))
      (fun _ => rfl)
  exact
    (hId.append hType).denotes (by decide)
      (by simp [layout, Assoc.keys])

namespace ActionSpec

/- What an action holds comes back. -/
structure PartsComeBack
    (spec : ActionSpec) : Prop where
  appliesTo :
    ∀ appliesTo, spec.appliesTo = some appliesTo →
      ComesBack AppliesTo.decode AppliesTo.toJson appliesTo
  context :
    ∀ type, spec.context = some type →
      ComesBack TypeSpec.decode TypeSpec.toJson type
  attributes :
    ∀ j, spec.attributes = some j → j.NoRepeats ∧ j ≠ .null
  annotations : spec.annotations.Ascending

/- An action comes back if what it holds does. -/
theorem comesBack_of_parts
    {spec : ActionSpec}
    (hParts : spec.PartsComeBack) :
    ComesBack decode toJson spec := by
  rcases spec with ⟨appliesTo, context, groups, attributes, notes⟩
  have hAppliesTo :
      Writes setField ["appliesTo"]
        (optionalMember "appliesTo" AppliesTo.toJson appliesTo)
        default ⟨appliesTo, none, none, none, []⟩ :=
    Writes.optional setField "appliesTo"
      (fun appliesTo => ⟨appliesTo, none, none, none, []⟩)
      (fun inner hSome =>
        (hParts.appliesTo inner hSome).option
          (by simp [AppliesTo.toJson]))
      (fun _ => rfl)
  have hAttributes :
      ∀ j, attributes = some j →
        Denotes (Json.asOption fun j => .ok j.collapse) (id j)
          (some j) := by
    intro j hSome
    rcases hParts.attributes j hSome with ⟨hKeys, hPresent⟩
    have hCollapse :
        Denotes (fun j => .ok j.collapse) j j :=
      ⟨hKeys, congrArg Except.ok (Json.collapse_eq_self hKeys)⟩
    exact hCollapse.option hPresent
  have hWrites :=
    hAppliesTo
      |>.append
        (Writes.optional setField "context"
          (fun context => ⟨appliesTo, context, none, none, []⟩)
          (fun type hSome =>
            (hParts.context type hSome).option type.toJson_ne_null)
          (fun _ => rfl))
      |>.append
        (Writes.optional setField "memberOf"
          (fun groups => ⟨appliesTo, context, groups, none, []⟩)
          (fun refs _ =>
            (Denotes.list fun ref _ => ref.comesBack).option (by simp))
          (fun _ => rfl))
      |>.append
        (Writes.optional setField "attributes"
          (fun attributes =>
            ⟨appliesTo, context, groups, attributes, []⟩)
          hAttributes (fun _ => rfl))
      |>.append
        (Writes.unlessEmpty setField "annotations"
          (fun notes =>
            ⟨appliesTo, context, groups, attributes, notes⟩)
          (denotes_annotations hParts.annotations) rfl)
  exact hWrites.denotes (by decide) (by simp [layout])

/- Attributes that are kept have no repeats and are no `null`. -/
theorem attributes_of_asOption
    {j : Json}
    {value : Option Json}
    (hOk : j.asOption (fun j => .ok j.collapse) = .ok value) :
    ∀ kept, value = some kept → kept.NoRepeats ∧ kept ≠ .null := by
  rintro kept rfl
  cases j with
  | null => cases Except.ok.inj hOk
  | _ =>
      rw [← Option.some.inj (Except.ok.inj hOk)]
      exact ⟨Json.noRepeats_collapse _, by simp [Json.collapse]⟩

/- An action that was read comes back. -/
theorem comesBack_of_decode
    {j : Json}
    {spec : ActionSpec}
    (hOk : decode j = .ok spec) :
    ComesBack decode toJson spec := by
  have hDefault : PartsComeBack default := by
    refine ⟨?_, ?_, ?_, Assoc.ascending_nil⟩
    · intro appliesTo hNone
      cases hNone
    · intro type hNone
      cases hNone
    · intro j hNone
      cases hNone
  apply comesBack_of_parts
  refine Json.Layout.decode_induct PartsComeBack ?_ hDefault hOk
  intro name j a b hSet hParts
  have ⟨hAppliesTo, hContext, hAttributes, hAnnotations⟩ := hParts
  unfold setField at hSet
  split_ifs at hSet
  all_goals
    rcases exists_ok_of_bind hSet with ⟨value, hValue, hDone⟩
    rw [← Except.ok.inj hDone]
  · have hRead :=
      Json.good_of_asOption
        (fun _ => AppliesTo.comesBack_of_decode) hValue
    exact ⟨hRead, hContext, hAttributes, hAnnotations⟩
  · exact
      ⟨hAppliesTo, TypeSpec.comesBack_of_asOption hValue,
        hAttributes, hAnnotations⟩
  · exact ⟨hAppliesTo, hContext, hAttributes, hAnnotations⟩
  · exact
      ⟨hAppliesTo, hContext, attributes_of_asOption hValue,
        hAnnotations⟩
  · exact
      ⟨hAppliesTo, hContext, hAttributes, ascending_of_asMap hValue⟩

end ActionSpec

------------------------------------------------------------
-- Namespaces
------------------------------------------------------------

namespace NamespaceSpec

/- What a namespace declares comes back. -/
structure PartsComeBack
    (spec : NamespaceSpec) : Prop where
  commonTypes :
    TableOf (ComesBack TypeSpec.decode TypeSpec.toJson)
      spec.commonTypes
  entityTypes :
    TableOf (ComesBack EntityTypeSpec.decode EntityTypeSpec.toJson)
      spec.entityTypes
  actions :
    TableOf (ComesBack ActionSpec.decode ActionSpec.toJson)
      spec.actions
  annotations : spec.annotations.Ascending

/- A namespace comes back if what it declares does. -/
theorem comesBack_of_parts
    {spec : NamespaceSpec}
    (hParts : spec.PartsComeBack) :
    ComesBack decode toJson spec := by
  rcases spec with ⟨common, types, actions, notes⟩
  have hCommon :
      Writes setField ["commonTypes"]
        (if common.isEmpty then []
          else [("commonTypes",
            .obj (common.mapValues TypeSpec.toJson))])
        default ⟨common, [], [], []⟩ :=
    Writes.unlessEmpty setField "commonTypes"
      (fun common => ⟨common, [], [], []⟩)
      (Denotes.uniqueMap hParts.commonTypes) rfl
  have hTypes :
      Writes setField ["entityTypes"]
        [("entityTypes",
          .obj (types.mapValues EntityTypeSpec.toJson))]
        ⟨common, [], [], []⟩ ⟨common, types, [], []⟩ :=
    Writes.field setField "entityTypes"
      (fun types => ⟨common, types, [], []⟩)
      (Denotes.uniqueMap hParts.entityTypes) rfl
  have hActions :
      Writes setField ["actions"]
        [("actions", .obj (actions.mapValues ActionSpec.toJson))]
        ⟨common, types, [], []⟩ ⟨common, types, actions, []⟩ :=
    Writes.field setField "actions"
      (fun actions => ⟨common, types, actions, []⟩)
      (Denotes.uniqueMap hParts.actions) rfl
  have hWrites :=
    hCommon
      |>.append (hTypes.append hActions)
      |>.append
        (Writes.unlessEmpty setField "annotations"
          (fun notes => ⟨common, types, actions, notes⟩)
          (denotes_annotations hParts.annotations) rfl)
  exact hWrites.denotes (by decide) (by simp [layout])

/- A namespace that was read comes back. -/
theorem comesBack_of_decode
    {j : Json}
    {spec : NamespaceSpec}
    (hOk : decode j = .ok spec) :
    ComesBack decode toJson spec := by
  have hDefault : PartsComeBack default :=
    ⟨Json.tableOf_nil, Json.tableOf_nil, Json.tableOf_nil,
      Assoc.ascending_nil⟩
  apply comesBack_of_parts
  refine Json.Layout.decode_induct PartsComeBack ?_ hDefault hOk
  intro name j a b hSet hParts
  have ⟨hCommon, hTypes, hActions, hAnnotations⟩ := hParts
  unfold setField at hSet
  split_ifs at hSet
  all_goals
    rcases exists_ok_of_bind hSet with ⟨value, hValue, hDone⟩
    rw [← Except.ok.inj hDone]
  · have hTable :=
      Json.tableOf_asUniqueMap
        (fun _ _ => TypeSpec.comesBack_of_decode) hValue
    exact ⟨hTable, hTypes, hActions, hAnnotations⟩
  · have hTable :=
      Json.tableOf_asUniqueMap
        (fun _ _ => EntityTypeSpec.comesBack_of_decode) hValue
    exact ⟨hCommon, hTable, hActions, hAnnotations⟩
  · have hTable :=
      Json.tableOf_asUniqueMap
        (fun _ _ => ActionSpec.comesBack_of_decode) hValue
    exact ⟨hCommon, hTypes, hTable, hAnnotations⟩
  · exact ⟨hCommon, hTypes, hActions, ascending_of_asMap hValue⟩

end NamespaceSpec

------------------------------------------------------------
-- Fragments
------------------------------------------------------------

namespace Fragment

/- A written fragment is flat if a namespace is named like it. -/
theorem isFlat_toJson_iff
    {fragment : Fragment} :
    isFlat fragment.toJson = true ↔
      "entityTypes" ∈ fragment.namespaces.keys ∨
        "actions" ∈ fragment.namespaces.keys := by
  simp [isFlat, toJson, Json.hasKey, Assoc.keys, Assoc.mapValues]

/- A fragment comes back if its namespaces do and it is not flat. -/
theorem comesBack_of_namespaces
    {fragment : Fragment}
    (hNamespaces :
      TableOf (ComesBack NamespaceSpec.decode NamespaceSpec.toJson)
        fragment.namespaces)
    (hNotFlat : ¬ isFlat fragment.toJson = true) :
    ComesBack decode toJson fragment := by
  have hTable := Denotes.uniqueMap hNamespaces
  refine ⟨hTable.noRepeats, ?_⟩
  rw [decode, if_neg hNotFlat, toJson, hTable.reread]
  rfl

/- A fragment that was decoded comes back. -/
theorem comesBack_of_decode
    {j : Json}
    {fragment : Fragment}
    (hOk : decode j = .ok fragment) :
    ComesBack decode toJson fragment := by
  unfold decode at hOk
  split_ifs at hOk with hFlat
  · rcases exists_ok_of_bind hOk with ⟨spec, hSpec, hDone⟩
    rw [← Except.ok.inj hDone]
    apply comesBack_of_namespaces
    · refine ⟨List.pairwise_singleton _ _, ?_⟩
      intro binding hBinding
      rw [List.mem_singleton.mp hBinding]
      exact NamespaceSpec.comesBack_of_decode hSpec
    · simp [isFlat_toJson_iff, Assoc.keys]
  · rcases exists_ok_of_bind hOk with ⟨table, hTable, hDone⟩
    rw [← Except.ok.inj hDone]
    apply comesBack_of_namespaces
    · exact
        Json.tableOf_asUniqueMap
          (fun _ _ => NamespaceSpec.comesBack_of_decode) hTable
    · -- A namespace of such a name would make the document flat.
      rw [isFlat_toJson_iff]
      rintro (hKey | hKey)
      all_goals
        have hHas := Json.hasKey_of_asUniqueMap hTable hKey
        exact hFlat (by simp [isFlat, hHas])

end Fragment

/-
  Whatever document a fragment was read from, its written
  form has no repeats and is read as the same fragment.
-/
theorem fragment_comes_back
    {j : Json}
    {fragment : Fragment}
    (hOk : Fragment.ofJson j = .ok fragment) :
    fragment.toJson.NoRepeats ∧
      Fragment.ofJson fragment.toJson = .ok fragment := by
  have hBack :=
    Fragment.comesBack_of_decode (Fragment.decode_of_ofJson hOk)
  refine ⟨hBack.noRepeats, ?_⟩
  have hReread : Fragment.decode fragment.toJson = .ok fragment :=
    hBack.reread
  rw [Fragment.toJson] at hReread ⊢
  simp only [Fragment.ofJson, hReread]

/-
  A flat document with a structure given as an array, fields
  that are `null`, and declarations named like fields.
-/
def libraryDocument : Json :=
  .obj
    [("actions", .obj
        [("type", .obj
          [("memberOf", .arr [.arr [.str "actions"]]),
            ("appliesTo", .null),
            ("attributes", .obj [("b", .null), ("a", .bool true)])])]),
      ("commonTypes", .obj
        [("element", .obj
          [("attributes", .obj
              [("type", .arr [.str "Set", .arr [.str "Long"]]),
                ("name", .obj
                  [("name", .null), ("type", .str "Long")])]),
            ("type", .str "Record")])]),
      ("entityTypes", .obj
        [("entityTypes", .arr [.arr [.str "Team"], .null])])]

/- The fragment of that document. -/
def libraryFragment : Fragment :=
  ⟨[("",
    ⟨[("element",
        ⟨"Record", none,
          some
            [("name", TypeSpec.named "Long"),
              ("type",
                ⟨"Set", some (TypeSpec.named "Long"), none, none, none,
                  false, []⟩)],
          none, none, false, []⟩)],
      [("entityTypes", ⟨["Team"], none, none, []⟩)],
      [("type",
        ⟨none, none, some [⟨"actions", none⟩],
          some (.obj [("b", .null), ("a", .bool true)]), []⟩)],
      []⟩)]⟩

/- The array, the `null`s and the flat layout are gone from it. -/
theorem libraryFragment_comes_back :
    Fragment.ofJson libraryDocument = .ok libraryFragment ∧
      libraryFragment.toJson.NoRepeats ∧
      Fragment.ofJson libraryFragment.toJson = .ok libraryFragment := by
  have hOk : Fragment.ofJson libraryDocument = .ok libraryFragment := by
    rfl
  exact ⟨hOk, fragment_comes_back hOk⟩

end PolicyCheck
