import PolicyCheck.Proofs.Building

/-
  What is known of the tables of every schema that is built.
  No name is declared twice, each declaration stands under
  its own name, and unless unknown names are allowed every
  type and action that a list names is declared.

  Main declarations:
    * `Schema.Tabled`
    * `Schema.tabled_of_build`
    * `Schema.Closed`
    * `Schema.mem_undeclaredTypes_iff`
    * `Schema.mem_undeclaredActions_iff`
    * `Schema.closed_of_build`
    * `Schema.action?_eq_some_iff`
-/

namespace PolicyCheck

------------------------------------------------------------
-- Schemas That Are Built
------------------------------------------------------------

namespace Schema

/-
  The tables of a schema are in order: no key is bound
  twice, and each declaration stands under its own name.
-/
structure Tabled
    (schema : Schema) : Prop where
  typeKeys : schema.entityTypes.keys.Nodup
  typeNames :
    ∀ type info, (type, info) ∈ schema.entityTypes →
      info.name = type
  actionKeys : schema.actions.keys.Nodup
  actionNames :
    ∀ uid info, (uid, info) ∈ schema.actions → info.name = uid

/- Every type and action that a schema names is declared. -/
structure Closed
    (schema : Schema) : Prop where
  parents :
    ∀ info ∈ schema.entityTypes.values,
      ∀ type ∈ info.memberOf, schema.knowsType type = true
  principals :
    ∀ info ∈ schema.actionInfos,
      ∀ type ∈ info.principals, schema.knowsType type = true
  resources :
    ∀ info ∈ schema.actionInfos,
      ∀ type ∈ info.resources, schema.knowsType type = true
  groups :
    ∀ info ∈ schema.actionInfos,
      ∀ uid ∈ info.memberOf, schema.knowsAction uid = true

/- The tables of a schema that is built are in order. -/
theorem tabled_of_build
    {allowUnknown : Bool}
    {fragments : List Fragment}
    {schema : Schema}
    (hBuilt : build allowUnknown fragments = .ok schema) :
    schema.Tabled := by
  rcases exists_declares_of_build hBuilt with
    ⟨declared, _, hSchema⟩
  constructor
  · exact hSchema.types.ascending.nodup
  · intro type info hMem
    exact (hSchema.types.mem_iff.mp hMem).1.symm
  · exact hSchema.actions.ascending.nodup
  · intro uid info hMem
    exact (hSchema.actions.mem_iff.mp hMem).1.symm

------------------------------------------------------------
-- Undeclared Names
------------------------------------------------------------

/- A type is known if it is declared. -/
theorem knowsType_iff
    {schema : Schema}
    {type : EntityType} :
    schema.knowsType type = true ↔
      type ∈ schema.entityTypes.keys :=
  Assoc.isSome_find?_iff

/- An action is known if it is declared. -/
theorem knowsAction_iff
    {schema : Schema}
    {uid : EntityUid} :
    schema.knowsAction uid = true ↔
      uid ∈ schema.actions.keys :=
  Assoc.isSome_find?_iff

/- A type stands in one of the lists of a schema. -/
def NamesType
    (schema : Schema)
    (type : EntityType) : Prop :=
  (∃ info ∈ schema.entityTypes.values, type ∈ info.memberOf) ∨
    ∃ info ∈ schema.actionInfos,
      type ∈ info.principals ∨ type ∈ info.resources

/- An action stands in one of the lists of a schema. -/
def NamesAction
    (schema : Schema)
    (uid : EntityUid) : Prop :=
  ∃ info ∈ schema.actionInfos, uid ∈ info.memberOf

/- A type is named by a schema but not declared in it. -/
def LacksType
    (schema : Schema)
    (type : EntityType) : Prop :=
  schema.NamesType type ∧ type ∉ schema.entityTypes.keys

/- An action is named by a schema but not declared in it. -/
def LacksAction
    (schema : Schema)
    (uid : EntityUid) : Prop :=
  schema.NamesAction uid ∧ uid ∉ schema.actions.keys

/- The undeclared types are those that a schema lacks. -/
theorem mem_undeclaredTypes_iff
    {schema : Schema}
    {type : EntityType} :
    type ∈ schema.undeclaredTypes ↔ schema.LacksType type := by
  simp [undeclaredTypes, LacksType, NamesType, mem_ascending,
    or_and_right, ← knowsType_iff]

/- The undeclared actions are those that a schema lacks. -/
theorem mem_undeclaredActions_iff
    {schema : Schema}
    {uid : EntityUid} :
    uid ∈ schema.undeclaredActions ↔ schema.LacksAction uid := by
  simp [undeclaredActions, LacksAction, NamesAction, mem_ascending,
    ← knowsAction_iff]

/- No type is undeclared if none is lacking. -/
theorem undeclaredTypes_eq_nil_iff
    {schema : Schema} :
    schema.undeclaredTypes = [] ↔
      ∀ type, ¬ schema.LacksType type := by
  simp only [List.eq_nil_iff_forall_not_mem,
    mem_undeclaredTypes_iff]

/- No action is undeclared if none is lacking. -/
theorem undeclaredActions_eq_nil_iff
    {schema : Schema} :
    schema.undeclaredActions = [] ↔
      ∀ uid, ¬ schema.LacksAction uid := by
  simp only [List.eq_nil_iff_forall_not_mem,
    mem_undeclaredActions_iff]

/- Declarations are in order if nothing is lacking. -/
theorem checkDeclarations_eq_ok_iff
    {schema : Schema} :
    schema.checkDeclarations = .ok () ↔
      (∀ type, ¬ schema.LacksType type) ∧
        ∀ uid, ¬ schema.LacksAction uid := by
  rw [← undeclaredTypes_eq_nil_iff, ← undeclaredActions_eq_nil_iff]
  unfold checkDeclarations
  cases schema.undeclaredTypes with
  | cons type rest => simp
  | nil =>
      cases schema.undeclaredActions with
      | cons uid rest => simp
      | nil => simp

/- A schema whose declarations are in order is closed. -/
theorem closed_of_checkDeclarations
    {schema : Schema}
    (hCheck : schema.checkDeclarations = .ok ()) :
    schema.Closed := by
  rcases checkDeclarations_eq_ok_iff.mp hCheck with
    ⟨hTypes, hActions⟩
  have hType :
      ∀ type, schema.NamesType type →
        schema.knowsType type = true := by
    intro type hNames
    rw [knowsType_iff]
    exact
      Decidable.byContradiction fun hUnknown =>
        hTypes type ⟨hNames, hUnknown⟩
  have hAction :
      ∀ uid, schema.NamesAction uid →
        schema.knowsAction uid = true := by
    intro uid hNames
    rw [knowsAction_iff]
    exact
      Decidable.byContradiction fun hUnknown =>
        hActions uid ⟨hNames, hUnknown⟩
  exact
    { parents := fun info hInfo type hMem =>
        hType type (.inl ⟨info, hInfo, hMem⟩)
      principals := fun info hInfo type hMem =>
        hType type (.inr ⟨info, hInfo, .inl hMem⟩)
      resources := fun info hInfo type hMem =>
        hType type (.inr ⟨info, hInfo, .inr hMem⟩)
      groups := fun info hInfo uid hMem =>
        hAction uid ⟨info, hInfo, hMem⟩ }

/- The declarations of a closed schema are in order. -/
theorem checkDeclarations_of_closed
    {schema : Schema}
    (hClosed : schema.Closed) :
    schema.checkDeclarations = .ok () := by
  rw [checkDeclarations_eq_ok_iff]
  constructor
  · rintro type ⟨hNames, hUnknown⟩
    apply hUnknown
    rw [← knowsType_iff]
    rcases hNames with ⟨info, hInfo, hMem⟩ | ⟨info, hInfo, hEither⟩
    · exact hClosed.parents info hInfo type hMem
    · rcases hEither with hMem | hMem
      · exact hClosed.principals info hInfo type hMem
      · exact hClosed.resources info hInfo type hMem
  · rintro uid ⟨⟨info, hInfo, hMem⟩, hUnknown⟩
    apply hUnknown
    rw [← knowsAction_iff]
    exact hClosed.groups info hInfo uid hMem

/-
  A schema that may not name the unknown is built like any
  other, and is closed.
-/
theorem build_eq_ok_iff
    {allowUnknown : Bool}
    {fragments : List Fragment}
    {schema : Schema} :
    build allowUnknown fragments = .ok schema ↔
      build true fragments = .ok schema ∧
        (allowUnknown = false → schema.Closed) := by
  cases allowUnknown with
  | true => simp
  | false =>
      rw [build_false_eq_ok_iff]
      constructor
      · rintro ⟨hBuilt, hCheck⟩
        exact ⟨hBuilt, fun _ => closed_of_checkDeclarations hCheck⟩
      · rintro ⟨hBuilt, hClosed⟩
        exact ⟨hBuilt, checkDeclarations_of_closed (hClosed rfl)⟩

/- A schema that may not name the unknown is closed. -/
theorem closed_of_build
    {fragments : List Fragment}
    {schema : Schema}
    (hBuilt : build false fragments = .ok schema) :
    schema.Closed :=
  closed_of_checkDeclarations (build_false_eq_ok_iff.mp hBuilt).2

------------------------------------------------------------
-- Declared Actions
------------------------------------------------------------

/- A declared action is found by its name. -/
theorem action?_eq_some_iff
    {schema : Schema}
    (hTabled : schema.Tabled)
    {uid : EntityUid}
    {info : ActionInfo} :
    schema.action? uid = some info ↔
      info ∈ schema.actionInfos ∧ info.name = uid := by
  constructor
  · intro hFound
    have hMem := Assoc.mem_of_find? hFound
    exact
      ⟨List.mem_map.mpr ⟨(uid, info), hMem, rfl⟩,
        hTabled.actionNames uid info hMem⟩
  · rintro ⟨hInfo, hName⟩
    rcases List.mem_map.mp hInfo with ⟨⟨key, value⟩, hMem, rfl⟩
    have hKey := hTabled.actionNames key value hMem
    rw [← hName, hKey]
    exact Assoc.find?_of_mem hTabled.actionKeys hMem

/- Declared actions of the same name are the same. -/
theorem actionInfo_eq_of_name_eq
    {schema : Schema}
    (hTabled : schema.Tabled)
    {a b : ActionInfo}
    (hA : a ∈ schema.actionInfos)
    (hB : b ∈ schema.actionInfos)
    (hName : a.name = b.name) :
    a = b := by
  have hFoundA := (action?_eq_some_iff hTabled).mpr ⟨hA, hName⟩
  have hFoundB := (action?_eq_some_iff hTabled).mpr ⟨hB, rfl⟩
  exact Option.some.inj (hFoundA.symm.trans hFoundB)

end Schema

end PolicyCheck
