import PolicyCheck.Proofs.Inlining
import PolicyCheck.Proofs.NameOrder
import PolicyCheck.Proofs.Tabulating

/-
  What it takes for a schema to be built. Its tables hold
  what the declarations of the fragments say once common
  types are inlined, so they depend on the declarations
  only, and not on the order in which these are looked at
  or on what was resolved on the way.

  Main declarations:
    * `EntityTypeInfo.inlined?`
    * `ActionInfo.inlined?`
    * `Schema.Declares`
    * `Schema.tables_eq_ok_iff`
    * `Schema.build_true_eq_ok_iff`
    * `Schema.build_false_eq_ok_iff`
    * `Fragment.SameDeclarations`
    * `build_depends_only_on_declarations`
-/

namespace PolicyCheck

open Resolving

------------------------------------------------------------
-- Declarations
------------------------------------------------------------

/-
  The record type of a specification inside a namespace when
  common types are inlined, if it is one. Without a
  specification everything is allowed.
-/
def CommonTypes.inlinedRecord?
    (declared : CommonTypes)
    (types : Memo)
    (ns : String) : Option TypeSpec → Option RecordType
  | none => some .anything
  | some spec =>
      match spec.inlined (declared.meaning types ns) ns with
      | .record record => some record
      | _ => none

/- The entity type that is declared, if its shape is a record. -/
def EntityTypeInfo.inlined?
    (declared : CommonTypes)
    (types : Memo)
    (declaration : Declaration EntityTypeSpec) :
    Option EntityTypeInfo :=
  (declared.inlinedRecord? types declaration.ns
      declaration.spec.shape).map
    fun shape =>
      ⟨EntityType.qualify declaration.ns declaration.name,
        shape,
        qualifyAll declaration.ns declaration.spec.memberOfTypes⟩

/- The action that is declared, if its context is a record. -/
def ActionInfo.inlined?
    (declared : CommonTypes)
    (types : Memo)
    (declaration : Declaration ActionSpec) :
    Option ActionInfo :=
  (declared.inlinedRecord? types declaration.ns
      declaration.spec.contextSpec).map
    fun context =>
      ⟨⟨EntityType.qualify declaration.ns EntityType.actionName,
          declaration.name⟩,
        qualifyAll declaration.ns declaration.spec.principalTypes,
        qualifyAll declaration.ns declaration.spec.resourceTypes,
        context,
        distinct
          ((declaration.spec.memberOf.getD []).map
            (ActionRef.toUid declaration.ns))⟩

section Resolving

variable {declared : CommonTypes}
variable {types memo : Memo}

/- A record type is the inlined one, whatever is remembered. -/
theorem CommonTypes.recordType_ends
    (hTypes : declared.Complete types)
    (hMemo : declared.Inlines memo)
    (ns : String)
    (owner : RecordOwner)
    (spec? : Option TypeSpec) :
    Ends (declared.recordType ns owner spec?) memo
      (fun record after =>
        declared.Inlines after ∧
          declared.inlinedRecord? types ns spec? = some record)
      (fun _ =>
        declared.inlinedRecord? types ns spec? = none) := by
  cases spec? with
  | none => exact Ends.pure ⟨hMemo, rfl⟩
  | some spec =>
      rw [recordType]
      apply
        Ends.bind
          ((type_ends ns spec hMemo).imp_error fun e hCycle =>
            absurd hCycle (hTypes.not_onCycle e))
      rintro type after ⟨hSettles, hInlined⟩
      rw [inlined_eq_of_keeps hSettles.bound
        (hTypes.keeps hSettles.inlines)] at hInlined
      rw [inlinedRecord?, ← hInlined]
      cases type with
      | record record => exact Ends.pure ⟨hSettles.inlines, rfl⟩
      | _ => exact Ends.throw rfl

/- The declaration of an entity type makes the inlined one. -/
theorem EntityTypeInfo.ofSpec_ends
    (hTypes : declared.Complete types)
    (declaration : Declaration EntityTypeSpec)
    (memo : Memo)
    (hMemo : declared.Inlines memo) :
    Ends (EntityTypeInfo.ofSpec declared declaration) memo
      (fun info after =>
        declared.Inlines after ∧
          EntityTypeInfo.inlined? declared types declaration =
            some info)
      (fun _ =>
        EntityTypeInfo.inlined? declared types declaration =
          none) := by
  unfold ofSpec inlined?
  apply
    Ends.bind
      ((CommonTypes.recordType_ends hTypes hMemo _ _ _).imp_error
        fun _ hNone => by rw [hNone]; rfl)
  rintro shape after ⟨hAfter, hShape⟩
  refine Ends.pure ⟨hAfter, ?_⟩
  rw [hShape]
  rfl

/- The declaration of an action makes the inlined one. -/
theorem ActionInfo.ofSpec_ends
    (hTypes : declared.Complete types)
    (declaration : Declaration ActionSpec)
    (memo : Memo)
    (hMemo : declared.Inlines memo) :
    Ends (ActionInfo.ofSpec declared declaration) memo
      (fun info after =>
        declared.Inlines after ∧
          ActionInfo.inlined? declared types declaration =
            some info)
      (fun _ =>
        ActionInfo.inlined? declared types declaration =
          none) := by
  unfold ofSpec inlined?
  apply
    Ends.bind
      ((CommonTypes.recordType_ends hTypes hMemo _ _ _).imp_error
        fun _ hNone => by rw [hNone]; rfl)
  rintro context after ⟨hAfter, hContext⟩
  refine Ends.pure ⟨hAfter, ?_⟩
  rw [hContext]
  rfl

/- A record type leaves what is remembered right. -/
theorem CommonTypes.recordType_preserves
    (hMemo : declared.Inlines memo)
    (ns : String)
    (owner : RecordOwner)
    (spec? : Option TypeSpec) :
    Ends (declared.recordType ns owner spec?) memo
      (fun _ after => declared.Inlines after)
      (fun _ => True) := by
  cases spec? with
  | none => exact Ends.pure hMemo
  | some spec =>
      rw [recordType]
      apply
        Ends.bind
          ((type_ends ns spec hMemo).imp_error fun _ _ => trivial)
      rintro type after ⟨hSettles, _⟩
      cases type with
      | record record => exact Ends.pure hSettles.inlines
      | _ => exact Ends.throw trivial

end Resolving

------------------------------------------------------------
-- Schemas
------------------------------------------------------------

namespace Schema

variable {declared : CommonTypes}
variable {fragments : List Fragment}
variable {schema : Schema}

/-
  A schema holds exactly what fragments declare: all common
  types are inlined, and so are the shapes of entity types
  and the contexts of actions.
-/
structure Declares
    (declared : CommonTypes)
    (fragments : List Fragment)
    (schema : Schema) : Prop where
  common : declared.Complete schema.commonTypes
  types :
    Tabulates
      (EntityTypeInfo.inlined? declared schema.commonTypes)
      EntityTypeInfo.name []
      (Fragment.declarations NamespaceSpec.entityTypes fragments)
      schema.entityTypes
  actions :
    Tabulates
      (ActionInfo.inlined? declared schema.commonTypes)
      ActionInfo.name []
      (Fragment.declarations NamespaceSpec.actions fragments)
      schema.actions

/- There is only one schema that holds what is declared. -/
theorem Declares.unique
    {other : Schema}
    (hSchema : schema.Declares declared fragments)
    (hOther : other.Declares declared fragments) :
    schema = other := by
  have hCommon : schema.commonTypes = other.commonTypes :=
    hSchema.common.unique hOther.common
  have hTypes := hSchema.types
  have hActions := hSchema.actions
  rw [hCommon] at hTypes hActions
  cases schema
  cases other
  simp only [Schema.mk.injEq]
  exact
    ⟨hTypes.unique hOther.types, hActions.unique hOther.actions,
      hCommon⟩

/-
  Where all common types can be inlined, the tables are made
  in turn, unless there is no schema with what is declared.
-/
theorem tables_ends
    {types : Memo}
    (hTypes : declared.Complete types) :
    Ends (tables declared fragments) []
      (fun schema _ => schema.Declares declared fragments)
      (fun _ =>
        ∀ schema : Schema,
          ¬ schema.Declares declared fragments) := by
  have hEntityTypes :=
    tabulate_ends EntityTypeInfo.name .duplicateEntityType
      (EntityTypeInfo.ofSpec_ends hTypes)
      (Fragment.declarations NamespaceSpec.entityTypes fragments)
      Assoc.ascending_nil (CommonTypes.Inlines.nil declared)
  apply
    Ends.bind
      (hEntityTypes.imp_error fun _ hNone schema hSchema => by
        apply hNone schema.entityTypes
        rw [← hSchema.common.unique hTypes]
        exact hSchema.types)
  rintro entityTypes first ⟨hFirst, hEntityTypes⟩
  have hActions :=
    tabulate_ends ActionInfo.name .duplicateAction
      (ActionInfo.ofSpec_ends hTypes)
      (Fragment.declarations NamespaceSpec.actions fragments)
      Assoc.ascending_nil hFirst
  apply
    Ends.bind
      (hActions.imp_error fun _ hNone schema hSchema => by
        apply hNone schema.actions
        rw [← hSchema.common.unique hTypes]
        exact hSchema.actions)
  rintro actions second ⟨hSecond, hActions⟩
  apply
    Ends.bind
      ((CommonTypes.resolveAll_ends hSecond).imp_error
        fun e hCycle => absurd hCycle (hTypes.not_onCycle e))
  intro commonTypes last hCommon
  rw [hTypes.unique hCommon] at hEntityTypes hActions
  exact Ends.pure ⟨hCommon, hEntityTypes, hActions⟩

/- Once the tables are made, all common types are inlined. -/
theorem tables_complete :
    Ends (tables declared fragments) []
      (fun schema _ => declared.Complete schema.commonTypes)
      (fun _ => True) := by
  apply
    Ends.bind
      (tabulate_preserves EntityTypeInfo.name .duplicateEntityType
        (fun declaration _ hMemo =>
          Ends.bind
            (CommonTypes.recordType_preserves hMemo _ _ _)
            fun _ _ hAfter => Ends.pure hAfter)
        _ (CommonTypes.Inlines.nil declared))
  intro entityTypes first hFirst
  apply
    Ends.bind
      (tabulate_preserves ActionInfo.name .duplicateAction
        (fun declaration _ hMemo =>
          Ends.bind
            (CommonTypes.recordType_preserves hMemo _ _ _)
            fun _ _ hAfter => Ends.pure hAfter)
        _ hFirst)
  intro actions second hSecond
  apply
    Ends.bind
      ((CommonTypes.resolveAll_ends hSecond).imp_error
        fun _ _ => trivial)
  intro commonTypes last hCommon
  exact Ends.pure hCommon

/- The tables that are made are those of what is declared. -/
theorem tables_eq_ok_iff :
    (tables declared fragments).run' [] = .ok schema ↔
      schema.Declares declared fragments := by
  rw [run'_eq_ok_iff]
  constructor
  · rintro ⟨after, hRun⟩
    have hCommon := tables_complete.ok schema after hRun
    exact (tables_ends hCommon).ok schema after hRun
  · intro hSchema
    rcases (tables_ends hSchema.common).exists_ok
        fun _ hNone => hNone schema hSchema with
      ⟨made, after, hRun, hMade⟩
    rw [hMade.unique hSchema] at hRun
    exact ⟨after, hRun⟩

/-
  Where unknown names are allowed, a schema is built exactly
  when it holds what fragments declare.
-/
theorem build_true_eq_ok_iff :
    build true fragments = .ok schema ↔
      ∃ declared,
        CommonTypes.ofFragments fragments = .ok declared ∧
          schema.Declares declared fragments := by
  unfold build
  constructor
  · intro hBuilt
    rcases exists_ok_of_bind hBuilt with
      ⟨declared, hDeclared, hTablesStep⟩
    rcases exists_ok_of_bind hTablesStep with
      ⟨made, hTables, hMade⟩
    rcases Except.ok.inj hMade with rfl
    exact ⟨declared, hDeclared, tables_eq_ok_iff.mp hTables⟩
  · rintro ⟨declared, hDeclared, hSchema⟩
    rw [hDeclared]
    have hTables := tables_eq_ok_iff.mpr hSchema
    change ((tables declared fragments).run' [] >>= _) = _
    rw [hTables]
    rfl

/-
  Where they are not allowed, the schema is built in the same
  way, and only then it is checked for unknown names.
-/
theorem build_false_eq
    (fragments : List Fragment) :
    build false fragments =
      build true fragments >>= fun schema =>
        schema.checkDeclarations >>= fun _ => .ok schema := by
  unfold build
  cases CommonTypes.ofFragments fragments with
  | error e => rfl
  | ok declared =>
      change
        ((tables declared fragments).run' [] >>= _) =
          ((tables declared fragments).run' [] >>= _) >>= _
      cases (tables declared fragments).run' [] with
      | error e => rfl
      | ok schema => rfl

/- A schema that may not name the unknown is checked for it. -/
theorem build_false_eq_ok_iff :
    build false fragments = .ok schema ↔
      build true fragments = .ok schema ∧
        schema.checkDeclarations = .ok () := by
  rw [build_false_eq]
  constructor
  · intro hBuilt
    rcases exists_ok_of_bind hBuilt with ⟨made, hMade, hNext⟩
    rcases exists_ok_of_bind hNext with ⟨_, hCheck, hSchema⟩
    rcases Except.ok.inj hSchema with rfl
    exact ⟨hMade, hCheck⟩
  · rintro ⟨hMade, hCheck⟩
    rw [hMade]
    change (schema.checkDeclarations >>= _) = _
    rw [hCheck]
    rfl

/- However a schema is built, it holds what fragments declare. -/
theorem exists_declares_of_build
    {allowUnknown : Bool}
    (hBuilt : build allowUnknown fragments = .ok schema) :
    ∃ declared,
      CommonTypes.ofFragments fragments = .ok declared ∧
        schema.Declares declared fragments := by
  cases allowUnknown with
  | true => exact build_true_eq_ok_iff.mp hBuilt
  | false =>
      exact
        build_true_eq_ok_iff.mp (build_false_eq_ok_iff.mp hBuilt).1

end Schema

------------------------------------------------------------
-- Other Fragments
------------------------------------------------------------

/-
  Fragments make the same declarations, in whatever order
  and however they are spread over fragments.
-/
structure Fragment.SameDeclarations
    (first second : List Fragment) : Prop where
  common :
    (declarations NamespaceSpec.commonTypes first).Perm
      (declarations NamespaceSpec.commonTypes second)
  types :
    (declarations NamespaceSpec.entityTypes first).Perm
      (declarations NamespaceSpec.entityTypes second)
  actions :
    (declarations NamespaceSpec.actions first).Perm
      (declarations NamespaceSpec.actions second)

namespace Fragment.SameDeclarations

variable {first second : List Fragment}

/- The roles of the fragments can be exchanged. -/
theorem symm
    (hSame : SameDeclarations first second) :
    SameDeclarations second first :=
  ⟨hSame.common.symm, hSame.types.symm, hSame.actions.symm⟩

/- The same declarations give the same common types. -/
theorem ofFragments_eq_ok
    (hSame : SameDeclarations first second)
    {declared : CommonTypes}
    (hDeclared : CommonTypes.ofFragments first = .ok declared) :
    CommonTypes.ofFragments second = .ok declared := by
  rw [CommonTypes.ofFragments_eq_ok_iff] at hDeclared ⊢
  exact
    ⟨hDeclared.1,
      hDeclared.2.trans (hSame.common.map Declaration.commonType)⟩

/- A schema that holds the ones holds the others. -/
theorem declares
    (hSame : SameDeclarations first second)
    {declared : CommonTypes}
    {schema : Schema}
    (hSchema : schema.Declares declared first) :
    schema.Declares declared second where
  common := hSchema.common
  types := hSchema.types.of_perm hSame.types
  actions := hSchema.actions.of_perm hSame.actions

/- What is built from the ones is built from the others. -/
theorem build_eq_ok
    (hSame : SameDeclarations first second)
    {allowUnknown : Bool}
    {schema : Schema}
    (hBuilt : Schema.build allowUnknown first = .ok schema) :
    Schema.build allowUnknown second = .ok schema := by
  have hOpen :
      Schema.build true first = .ok schema →
        Schema.build true second = .ok schema := by
    intro hBuilt
    rcases Schema.build_true_eq_ok_iff.mp hBuilt with
      ⟨declared, hDeclared, hSchema⟩
    exact
      Schema.build_true_eq_ok_iff.mpr
        ⟨declared, hSame.ofFragments_eq_ok hDeclared,
          hSame.declares hSchema⟩
  cases allowUnknown with
  | true => exact hOpen hBuilt
  | false =>
      rw [Schema.build_false_eq_ok_iff] at hBuilt ⊢
      exact ⟨hOpen hBuilt.1, hBuilt.2⟩

end Fragment.SameDeclarations

/-
  Whether a schema is built, and which one, depends only on
  what is declared, not on the order of the declarations and
  not on the fragments that make them.
-/
theorem build_depends_only_on_declarations
    {first second : List Fragment}
    (hSame : Fragment.SameDeclarations first second)
    (allowUnknown : Bool)
    (schema : Schema) :
    Schema.build allowUnknown first = .ok schema ↔
      Schema.build allowUnknown second = .ok schema :=
  ⟨hSame.build_eq_ok, hSame.symm.build_eq_ok⟩

/- The shape of what can be reached at an address. -/
def addressSpec : TypeSpec :=
  { (default : TypeSpec) with
    type := "Record"
    attributes := some [("street", .named "String")] }

/- A reader is a member of libraries and has an address. -/
def readerSpec : EntityTypeSpec :=
  { (default : EntityTypeSpec) with
    memberOfTypes := ["Library"]
    shape := some (.named "Address") }

/- Readers can borrow books. -/
def borrowSpec : ActionSpec :=
  { (default : ActionSpec) with
    appliesTo := some ⟨["Book"], ["Reader"], none⟩ }

/- A town and its library in one fragment. -/
def townFragment : Fragment :=
  ⟨[("Town", {
      commonTypes := [("Address", addressSpec)]
      entityTypes := [("Book", default), ("Library", default),
        ("Reader", readerSpec)]
      actions := [("borrow", borrowSpec)]
      annotations := [] })]⟩

/- The same in three fragments, the address after its use. -/
def townParts : List Fragment :=
  [⟨[("Town", { (default : NamespaceSpec) with
      entityTypes := [("Reader", readerSpec)]
      actions := [("borrow", borrowSpec)] })]⟩,
    ⟨[("Town", { (default : NamespaceSpec) with
      commonTypes := [("Address", addressSpec)] })]⟩,
    ⟨[("Town", { (default : NamespaceSpec) with
      entityTypes := [("Library", default), ("Book", default)] })]⟩]

/- The schema of the town. -/
def townSchema : Schema :=
  ⟨[(⟨"Town::Book"⟩, ⟨⟨"Town::Book"⟩, .anything, []⟩),
      (⟨"Town::Library"⟩, ⟨⟨"Town::Library"⟩, .anything, []⟩),
      (⟨"Town::Reader"⟩,
        ⟨⟨"Town::Reader"⟩,
          ⟨[("street", ⟨.string, true⟩)], .closedAttributes⟩,
          [⟨"Town::Library"⟩]⟩)],
    [(⟨⟨"Town::Action"⟩, "borrow"⟩,
        ⟨⟨⟨"Town::Action"⟩, "borrow"⟩, [⟨"Town::Reader"⟩],
          [⟨"Town::Book"⟩], .anything, []⟩)],
    [("Town::Address",
        .record ⟨[("street", ⟨.string, true⟩)], .closedAttributes⟩)]⟩

/- The one common type of the town has no references. -/
theorem townSchema_complete :
    CommonTypes.Complete [("Town::Address", ("Town", addressSpec))]
      townSchema.commonTypes := by
  have hRun :
      (CommonTypes.resolveAll
        [("Town::Address", ("Town", addressSpec))]).run [] =
          .ok (townSchema.commonTypes, townSchema.commonTypes) := by
    simp only [CommonTypes.resolveAll, Assoc.keys, List.map,
      CommonTypes.resolveNames]
    rw [CommonTypes.resolve]
    rfl
  exact
    (CommonTypes.resolveAll_ends (CommonTypes.Inlines.nil _)).ok _ _
      hRun

/-
  The schema of the town is built from its three fragments,
  where a common type is used before it is declared, because
  it is built from one.
-/
theorem townParts_build :
    Fragment.SameDeclarations [townFragment] townParts ∧
      Schema.build false [townFragment] = .ok townSchema ∧
      Schema.build false townParts = .ok townSchema := by
  have hSame : Fragment.SameDeclarations [townFragment] townParts :=
    ⟨.refl _,
      List.reverse_perm
        (Fragment.declarations NamespaceSpec.entityTypes townParts),
      .refl _⟩
  have hSchema :
      townSchema.Declares
        [("Town::Address", ("Town", addressSpec))] [townFragment] := by
    refine ⟨townSchema_complete, ?_, ?_⟩
    · exact ⟨by decide, by decide, .refl _⟩
    · exact ⟨by decide, by decide, .refl _⟩
  have hBuilt :
      Schema.build false [townFragment] = .ok townSchema := by
    rw [Schema.build_false_eq_ok_iff, Schema.build_true_eq_ok_iff]
    exact ⟨⟨_, rfl, hSchema⟩, rfl⟩
  exact
    ⟨hSame, hBuilt,
      (build_depends_only_on_declarations hSame false townSchema).mp
        hBuilt⟩

end PolicyCheck
