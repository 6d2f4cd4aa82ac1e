import Mathlib.Data.Fintype.EquivFin
import PolicyCheck.Proofs.Candidates

/-
  Schemas that declare one thing more. An entity type that
  is a member of nothing, or an action, can be added to every
  schema under a new name, by one more fragment. Entities
  can then be members of no other entities than before.

  Main declarations:
    * `Schema.addType`
    * `Schema.build_addType`
    * `Schema.addAction`
    * `Schema.build_addAction`
    * `Schema.SameHierarchy`
    * `Schema.exists_applying`
-/

------------------------------------------------------------
-- One More Declaration
------------------------------------------------------------

namespace PolicyCheck

/- A table in which one more declaration is entered. -/
theorem Tabulates.cons_of_new
    {α β κ : Type}
    [DecidableEq κ] [LT κ] [DecidableLT κ]
    [Trans (α := κ) (· < ·) (· < ·) (· < ·)]
    [Std.Trichotomous (α := κ) (· < ·)]
    {value? : α → Option β}
    {key : β → κ}
    {table : Assoc κ β}
    {declarations : List α}
    (hTable : Tabulates value? key [] declarations table)
    {a : α}
    {b : β}
    (hMade : value? a = some b)
    (hNew : key b ∉ table.keys) :
    Tabulates value? key [] (a :: declarations)
      (table.insert (key b) b) where
  made := by
    intro other hOther
    rcases List.mem_cons.mp hOther with rfl | hRest
    · simp [hMade]
    · exact hTable.made other hRest
  ascending := Assoc.ascending_insert hTable.ascending (key b) b
  perm := by
    rw [List.filterMap_cons_some hMade, List.map_cons,
      List.cons_append]
    exact
      (Assoc.insert_perm hNew b).trans (hTable.perm.cons (key b, b))

/- What was bound stays bound, and so is what is bound anew. -/
theorem Assoc.isSome_find?_insert
    {κ α : Type}
    [DecidableEq κ] [LT κ] [DecidableLT κ]
    {bindings : Assoc κ α}
    {key other : κ}
    {value : α}
    (hBound :
      other = key ∨ (bindings.find? other).isSome = true) :
    ((bindings.insert key value).find? other).isSome = true := by
  by_cases hSame : other = key
  · rw [hSame, Assoc.find?_insert_self]
    rfl
  · rw [Assoc.find?_insert_of_ne hSame]
    exact hBound.resolve_left hSame

/- A fragment that declares an entity type and nothing else. -/
def Fragment.ofType
    (type : EntityType) : Fragment :=
  ⟨[("", ⟨[], [(type.name, ⟨[], none, none, []⟩)], [], []⟩)]⟩

/-
  A fragment that declares an action, for one type of
  principals and one of resources, and nothing else.
-/
def Fragment.ofAction
    (id : String)
    (principal resource : EntityType) : Fragment :=
  ⟨[("", ⟨[], [],
    [(id, ⟨some ⟨[resource.name], [principal.name], none⟩, none,
      none, none, []⟩)], []⟩)]⟩

namespace Schema

variable {schema : Schema} {fragments : List Fragment}
variable {allowUnknown : Bool}

------------------------------------------------------------
-- Entity Types
------------------------------------------------------------

/- An entity type that is a member of nothing is added. -/
def addType
    (schema : Schema)
    (type : EntityType) : Schema :=
  { schema with
    entityTypes :=
      schema.entityTypes.insert type ⟨type, .anything, []⟩ }

/- What was known is known, and so is the new type. -/
theorem knowsType_addType
    {type other : EntityType}
    (hKnown : other = type ∨ schema.knowsType other = true) :
    (schema.addType type).knowsType other = true :=
  Assoc.isSome_find?_insert hKnown

/- A schema stays closed when a type is added. -/
theorem Closed.addType
    (hClosed : schema.Closed)
    (type : EntityType) :
    (schema.addType type).Closed where
  parents := by
    intro info hInfo parent hParent
    rcases List.mem_map.mp hInfo with ⟨binding, hBinding, rfl⟩
    rcases Assoc.mem_insert hBinding with rfl | hOld
    · simp at hParent
    · exact
        knowsType_addType
          (.inr (hClosed.parents _ (List.mem_map_of_mem hOld) _ hParent))
  principals := fun info hInfo _ hMem =>
    knowsType_addType (.inr (hClosed.principals info hInfo _ hMem))
  resources := fun info hInfo _ hMem =>
    knowsType_addType (.inr (hClosed.resources info hInfo _ hMem))
  groups := hClosed.groups

/- A new entity type can be declared by one more fragment. -/
theorem build_addType
    (hBuilt : build allowUnknown fragments = .ok schema)
    {type : EntityType}
    (hNew : schema.knowsType type = false) :
    build allowUnknown (Fragment.ofType type :: fragments) =
      .ok (schema.addType type) := by
  have hKey : type ∉ schema.entityTypes.keys := by
    rw [← knowsType_iff, hNew]
    exact Bool.false_ne_true
  rcases build_eq_ok_iff.mp hBuilt with ⟨hOpen, hClosed⟩
  rcases build_true_eq_ok_iff.mp hOpen with
    ⟨declared, hDeclared, hSchema⟩
  refine
    build_eq_ok_iff.mpr
      ⟨build_true_eq_ok_iff.mpr ⟨declared, hDeclared, ?_⟩,
        fun hStrict => (hClosed hStrict).addType type⟩
  have hMade :
      EntityTypeInfo.inlined? declared schema.commonTypes
          ⟨"", type.name, ⟨[], none, none, []⟩⟩ =
        some ⟨type, .anything, []⟩ :=
    rfl
  exact
    ⟨hSchema.common, hSchema.types.cons_of_new hMade hKey,
      hSchema.actions⟩

------------------------------------------------------------
-- Actions
------------------------------------------------------------

/- An action for one type of principals and one of resources. -/
def addAction
    (schema : Schema)
    (id : String)
    (principal resource : EntityType) : Schema :=
  { schema with
    actions :=
      schema.actions.insert ⟨.action, id⟩
        ⟨⟨.action, id⟩, [principal], [resource], .anything, []⟩ }

/- A schema stays closed when an action on known types is added. -/
theorem Closed.addAction
    (hClosed : schema.Closed)
    {principal resource : EntityType}
    (hPrincipal : schema.knowsType principal = true)
    (hResource : schema.knowsType resource = true)
    (id : String) :
    (schema.addAction id principal resource).Closed := by
  -- What is said of all old actions and of the new one.
  have hInfos :
      ∀ info ∈ (schema.addAction id principal resource).actionInfos,
        info = ⟨⟨.action, id⟩, [principal], [resource],
            .anything, []⟩ ∨
          info ∈ schema.actionInfos := by
    intro info hInfo
    rcases List.mem_map.mp hInfo with ⟨binding, hBinding, rfl⟩
    rcases Assoc.mem_insert hBinding with rfl | hOld
    · exact Or.inl rfl
    · exact Or.inr (List.mem_map_of_mem hOld)
  constructor
  · exact hClosed.parents
  · intro info hInfo type hMem
    rcases hInfos info hInfo with rfl | hOld
    · rw [List.mem_singleton.mp hMem]
      exact hPrincipal
    · exact hClosed.principals info hOld type hMem
  · intro info hInfo type hMem
    rcases hInfos info hInfo with rfl | hOld
    · rw [List.mem_singleton.mp hMem]
      exact hResource
    · exact hClosed.resources info hOld type hMem
  · intro info hInfo uid hMem
    rcases hInfos info hInfo with rfl | hOld
    · simp at hMem
    · exact
        Assoc.isSome_find?_insert
          (.inr (hClosed.groups info hOld uid hMem))

/- An action that was added applies, if its principals are known. -/
theorem applicable_addAction
    {principal : EntityType}
    (hPrincipal : schema.knowsType principal = true)
    (id : String)
    (resource : EntityType) :
    (schema.addAction id principal resource).applicable
        (.eq ⟨.action, id⟩) =
      [⟨⟨.action, id⟩, [principal], [resource], .anything, []⟩] := by
  have hFound :
      (schema.addAction id principal resource).action?
          ⟨.action, id⟩ =
        some ⟨⟨.action, id⟩, [principal], [resource],
          .anything, []⟩ :=
    Assoc.find?_insert_self _ _ _
  have hFormed :
      (schema.addAction id principal resource).isMalformed
          principal =
        false :=
    isMalformed_eq_false hPrincipal
  simp [applicable, candidates, hFound, hasValidAppliesTo, hFormed]

/- A new action can be declared by one more fragment. -/
theorem build_addAction
    (hBuilt : build allowUnknown fragments = .ok schema)
    {id : String}
    (hNew : schema.knowsAction ⟨.action, id⟩ = false)
    {principal resource : EntityType}
    (hPrincipal : schema.knowsType principal = true)
    (hResource : schema.knowsType resource = true) :
    build allowUnknown
        (Fragment.ofAction id principal resource :: fragments) =
      .ok (schema.addAction id principal resource) := by
  have hKey : ⟨.action, id⟩ ∉ schema.actions.keys := by
    rw [← knowsAction_iff, hNew]
    exact Bool.false_ne_true
  rcases build_eq_ok_iff.mp hBuilt with ⟨hOpen, hClosed⟩
  rcases build_true_eq_ok_iff.mp hOpen with
    ⟨declared, hDeclared, hSchema⟩
  refine
    build_eq_ok_iff.mpr
      ⟨build_true_eq_ok_iff.mpr ⟨declared, hDeclared, ?_⟩,
        fun hStrict =>
          (hClosed hStrict).addAction hPrincipal hResource id⟩
  have hMade :
      ActionInfo.inlined? declared schema.commonTypes
          ⟨"", id, ⟨some ⟨[resource.name], [principal.name], none⟩,
            none, none, none, []⟩⟩ =
        some ⟨⟨.action, id⟩, [principal], [resource],
          .anything, []⟩ :=
    rfl
  exact
    ⟨hSchema.common, hSchema.types,
      hSchema.actions.cons_of_new hMade hKey⟩

------------------------------------------------------------
-- Memberships
------------------------------------------------------------

/- In two schemas the same entities can be in the same ones. -/
def SameHierarchy
    (schema other : Schema) : Prop :=
  ∀ source target,
    other.canBeDescendant source target =
      schema.canBeDescendant source target

/- A new type that is a member of nothing changes no membership. -/
theorem sameHierarchy_addType
    {type : EntityType}
    (hNew : schema.knowsType type = false) :
    schema.SameHierarchy (schema.addType type) := by
  have hEdges : (schema.addType type).CanBelong = schema.CanBelong := by
    funext child parent
    unfold CanBelong entityType? addType
    by_cases hSame : child = type
    · have hNone : schema.entityTypes.find? type = none := by
        simpa [knowsType, entityType?] using hNew
      rw [hSame, Assoc.find?_insert_self, hNone]
      simp
    · rw [Assoc.find?_insert_of_ne hSame]
  intro source target
  rw [Bool.eq_iff_iff, canBeDescendant_iff, canBeDescendant_iff,
    hEdges]

/- There is a type whose entities are in none of a given type. -/
theorem exists_type_apart
    (schema : Schema)
    (target : EntityType) :
    ∃ type,
      type ≠ target ∧
        schema.canBeDescendant type target = false := by
  rcases Infinite.exists_notMem_finset
      ((target :: schema.typeNames).map EntityType.name).toFinset with
    ⟨name, hFresh⟩
  have hNew : ⟨name⟩ ∉ target :: schema.typeNames := by
    intro hMem
    exact hFresh (List.mem_toFinset.mpr (List.mem_map_of_mem hMem))
  have hParts := List.ne_and_not_mem_of_not_mem_cons hNew
  refine ⟨⟨name⟩, hParts.1, Bool.eq_false_iff.mpr ?_⟩
  intro hReaches
  rcases Relation.TransGen.head'_iff.mp
      (canBeDescendant_iff.mp hReaches) with
    ⟨_, ⟨info, hInfo, _⟩, _⟩
  exact hParts.2 (Assoc.mem_keys_of_mem (Assoc.mem_of_find? hInfo))

/- A schema in which a type is known, if need be with one more. -/
theorem exists_knowing
    (hBuilt : build allowUnknown fragments = .ok schema)
    (type : EntityType) :
    ∃ more grown,
      build allowUnknown (more ++ fragments) = .ok grown ∧
        schema.SameHierarchy grown ∧
        grown.knowsType type = true ∧
        ∀ other, schema.knowsType other = true →
          grown.knowsType other = true := by
  cases hKnown : schema.knowsType type with
  | true =>
      exact
        ⟨[], schema, hBuilt, fun _ _ => rfl, hKnown, fun _ => id⟩
  | false =>
      exact
        ⟨[Fragment.ofType type], schema.addType type,
          build_addType hBuilt hKnown, sameHierarchy_addType hKnown,
          knowsType_addType (.inl rfl),
          fun _ hOther => knowsType_addType (.inr hOther)⟩

/-
  Every schema can be extended, without other memberships,
  so that one of its actions applies to entities of two
  given types and to no others.
-/
theorem exists_applying
    (hBuilt : build allowUnknown fragments = .ok schema)
    (principal resource : EntityType) :
    ∃ more grown uid,
      build allowUnknown (more ++ fragments) = .ok grown ∧
        schema.SameHierarchy grown ∧
        grown.applicable (.eq uid) =
          [⟨uid, [principal], [resource], .anything, []⟩] := by
  rcases exists_knowing hBuilt principal with
    ⟨first, middle, hFirst, hFirstSame, hPrincipal, _⟩
  rcases exists_knowing hFirst resource with
    ⟨second, last, hLast, hLastSame, hResource, hKeeps⟩
  rcases Infinite.exists_notMem_finset
      (last.actions.keys.map EntityUid.id).toFinset with
    ⟨id, hFresh⟩
  have hNew : last.knowsAction ⟨.action, id⟩ = false := by
    rw [Bool.eq_false_iff, ne_eq, knowsAction_iff]
    intro hKey
    exact hFresh (List.mem_toFinset.mpr (List.mem_map_of_mem hKey))
  refine
    ⟨Fragment.ofAction id principal resource :: (second ++ first),
      last.addAction id principal resource, ⟨.action, id⟩, ?_, ?_, ?_⟩
  · rw [List.cons_append, List.append_assoc]
    exact build_addAction hLast hNew (hKeeps _ hPrincipal) hResource
  · intro source target
    exact
      (hLastSame source target).trans (hFirstSame source target)
  · exact applicable_addAction (hKeeps _ hPrincipal) id resource

end Schema

end PolicyCheck
