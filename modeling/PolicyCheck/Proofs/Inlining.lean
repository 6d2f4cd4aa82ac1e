import Mathlib.Logic.Relation
import Mathlib.Tactic.SplitIfs
import PolicyCheck.Proofs.Assoc
import PolicyCheck.Proofs.Resolving

/-
  Resolving the common types of a schema comes to inlining
  them. Each name that is resolved stands for its own
  definition, in which the names of other common types are
  replaced by the types these stand for. That works exactly
  when no common type refers to itself through others, and
  what was resolved before makes no difference.

  Main declarations:
    * `TypeSpec.names`
    * `TypeSpec.inlined`
    * `CommonTypes.Refers`
    * `TypeForm.of_eq`
    * `CommonTypes.Inlines`
    * `CommonTypes.resolve_ends`
    * `CommonTypes.type_ends`
    * `CommonTypes.Complete`
    * `CommonTypes.resolveAll_ends`
    * `CommonTypes.Complete.unique`
-/

namespace PolicyCheck

------------------------------------------------------------
-- Names In Specifications
------------------------------------------------------------

namespace TypeSpec

/- The words for the kinds of types that have no parts. -/
def plainKinds : List String :=
  ["", "Bool", "Boolean", "Entity", "Extension", "Long", "String"]

/- A name that is given, and not left empty. -/
def given?
    (name : Option String) : Option String :=
  name.filter fun name => name ≠ ""

/-
  The bare name that stands for a type without parts: the
  one that is given where the word says that a name may be
  of an entity type or of a common type, none where it says
  another kind, and any other word itself.
-/
def bareName?
    (type : String)
    (name : Option String) : Option String :=
  if type = "EntityOrCommon" then given? name
  else if type ∈ plainKinds then none
  else some type

/- The type of a kind without parts that is no bare name. -/
def plainTy
    (ns type : String)
    (name : Option String) : Ty :=
  if type = "Bool" ∨ type = "Boolean" then .bool
  else if type = "Long" then .long
  else if type = "String" then .string
  else if type = "Entity" then
    (given? name).elim .anyEntity fun name =>
      .entity (EntityType.qualify ns name)
  else if type = "Extension" then
    (name.bind ExtensionKind.ofName?).elim .unknown .extension
  else .unspecified

mutual

/-
  The bare names in a specification, by the word for its
  kind: those of the element of a set, those of all
  attributes of a record, or the one that it is.
-/
def names : TypeSpec → List String
  | ⟨type, element, attributes, name, _, _, _⟩ =>
      if type = "Set" then elementNames element
      else if type = "Record" then recordNames attributes
      else (bareName? type name).toList

/- The bare names in the specification of an element. -/
def elementNames : Option TypeSpec → List String
  | none => []
  | some element => names element

/- The bare names in the specification of attributes. -/
def recordNames :
    Option (List (String × TypeSpec)) → List String
  | none => []
  | some attributes => tableNames attributes

/- The bare names in a table of specifications. -/
def tableNames : List (String × TypeSpec) → List String
  | [] => []
  | (_, spec) :: rest => names spec ++ tableNames rest

end

mutual

/-
  The type that is specified when bare names have meanings,
  by the word for its kind.
-/
def inlined
    (meaning : String → Ty)
    (ns : String) : TypeSpec → Ty
  | ⟨type, element, attributes, name, _, additional, _⟩ =>
      if type = "Set" then .set (elementInlined meaning ns element)
      else if type = "Record" then
        .record
          ⟨recordInlined meaning ns attributes, .ofBool additional⟩
      else
        (bareName? type name).elim (plainTy ns type name) meaning

/- The type of the elements of a set. -/
def elementInlined
    (meaning : String → Ty)
    (ns : String) : Option TypeSpec → Ty
  | none => .unknown
  | some element => inlined meaning ns element

/- The attributes of a record. -/
def recordInlined
    (meaning : String → Ty)
    (ns : String) :
    Option (List (String × TypeSpec)) →
      List (String × AttributeType)
  | none => []
  | some attributes => tableInlined meaning ns attributes

/- The types of attributes. -/
def tableInlined
    (meaning : String → Ty)
    (ns : String) :
    List (String × TypeSpec) → List (String × AttributeType)
  | [] => []
  | (name, spec) :: rest =>
      (name, ⟨inlined meaning ns spec, spec.isRequired⟩) ::
        tableInlined meaning ns rest

end

section Congruence

variable {first second : String → Ty} {ns : String}

mutual

/- Only the meanings of the names in a specification matter. -/
theorem inlined_congr :
    (spec : TypeSpec) →
      (∀ name ∈ names spec, first name = second name) →
      inlined first ns spec = inlined second ns spec
  | ⟨type, element, attributes, name, _, additional, _⟩,
      hSame => by
      rw [names] at hSame
      rw [inlined, inlined]
      split_ifs at hSame ⊢
      · exact congrArg Ty.set (elementInlined_congr element hSame)
      · rw [recordInlined_congr attributes hSame]
      · cases hBare : bareName? type name with
        | none => rfl
        | some other => exact hSame other (by simp [hBare])

/- The same for the element of a set. -/
theorem elementInlined_congr :
    (element : Option TypeSpec) →
      (∀ name ∈ elementNames element, first name = second name) →
      elementInlined first ns element =
        elementInlined second ns element
  | none, _ => by rw [elementInlined, elementInlined]
  | some element, hSame => by
      rw [elementNames] at hSame
      rw [elementInlined, elementInlined]
      exact inlined_congr element hSame

/- The same for the attributes of a record. -/
theorem recordInlined_congr :
    (attributes : Option (List (String × TypeSpec))) →
      (∀ name ∈ recordNames attributes, first name = second name) →
      recordInlined first ns attributes =
        recordInlined second ns attributes
  | none, _ => by rw [recordInlined, recordInlined]
  | some attributes, hSame => by
      rw [recordNames] at hSame
      rw [recordInlined, recordInlined]
      exact tableInlined_congr attributes hSame

/- The same for a table of attributes. -/
theorem tableInlined_congr :
    (attributes : List (String × TypeSpec)) →
      (∀ name ∈ tableNames attributes, first name = second name) →
      tableInlined first ns attributes =
        tableInlined second ns attributes
  | [], _ => by rw [tableInlined, tableInlined]
  | (name, spec) :: rest, hSame => by
      rw [tableNames] at hSame
      have hFirst :=
        inlined_congr spec fun other hOther =>
          hSame other (List.mem_append_left _ hOther)
      have hRest :=
        tableInlined_congr rest fun other hOther =>
          hSame other (List.mem_append_right _ hOther)
      rw [tableInlined, tableInlined, hFirst, hRest]

end

end Congruence

end TypeSpec

------------------------------------------------------------
-- References
------------------------------------------------------------

namespace CommonTypes

/-
  The common type that a bare name refers to inside a
  namespace, if it refers to one: the one of the qualified
  name, failing that the one of the name as it is written.
-/
def referent?
    (declared : CommonTypes)
    (ns name : String) : Option String :=
  if (EntityType.qualify ns name).name ∈ declared.keys then
    some (EntityType.qualify ns name).name
  else if name ∈ declared.keys then some name
  else none

/- A common type refers to another by a name in its definition. -/
def Refers
    (declared : CommonTypes)
    (name other : String) : Prop :=
  ∃ ns spec,
    declared.find? name = some (ns, spec) ∧
      ∃ bare ∈ spec.names,
        declared.referent? ns bare = some other

/- An error says that a common type is its own part. -/
def OnCycle
    (declared : CommonTypes)
    (e : SchemaError) : Prop :=
  ∃ name,
    e = .commonTypeCycle name ∧
      Relation.TransGen declared.Refers name name

/- No endless chain of references starts at a name. -/
def Grounded
    (declared : CommonTypes)
    (name : String) : Prop :=
  Acc (fun other name => declared.Refers name other) name

/- A grounded name is on no cycle. -/
theorem Grounded.not_transGen
    {declared : CommonTypes}
    {name : String}
    (hGrounded : declared.Grounded name) :
    ¬ Relation.TransGen declared.Refers name name := by
  induction hGrounded with
  | intro name _ ih =>
      intro hCycle
      -- The cycle also passes through the next name on it.
      rcases Relation.TransGen.head'_iff.mp hCycle with
        ⟨next, hRefers, hBack⟩
      exact ih next hRefers (Relation.TransGen.tail' hBack hRefers)

/- Only declared names refer to others. -/
theorem Refers.mem_keys
    {declared : CommonTypes}
    {name other : String}
    (hRefers : declared.Refers name other) :
    name ∈ declared.keys := by
  rcases hRefers with ⟨ns, spec, hFound, _⟩
  exact mem_keys_of_find? hFound

/- What is referred to is declared. -/
theorem mem_keys_of_referent?
    {declared : CommonTypes}
    {ns name other : String}
    (hReferent : declared.referent? ns name = some other) :
    other ∈ declared.keys := by
  unfold referent? at hReferent
  split at hReferent
  · rename_i hQualified
    rw [← Option.some.inj hReferent]
    exact hQualified
  · split at hReferent
    · rename_i hWritten
      rw [← Option.some.inj hReferent]
      exact hWritten
    · cases hReferent

/-
  What a bare name means inside a namespace, given the types
  of the common types.
-/
def meaning
    (declared : CommonTypes)
    (types : Memo)
    (ns name : String) : Ty :=
  match declared.referent? ns name with
  | some other => (types.find? other).getD .unknown
  | none => .entity (EntityType.qualify ns name)

/- The meaning of a name that refers to a common type. -/
theorem meaning_of_find?
    {declared : CommonTypes}
    {types : Memo}
    {ns name other : String}
    {type : Ty}
    (hReferent : declared.referent? ns name = some other)
    (hType : types.find? other = some type) :
    declared.meaning types ns name = type := by
  simp [meaning, hReferent, hType]

/- The meaning of a name that refers to no common type. -/
theorem meaning_of_none
    {declared : CommonTypes}
    {types : Memo}
    {ns name : String}
    (hReferent : declared.referent? ns name = none) :
    declared.meaning types ns name =
      .entity (EntityType.qualify ns name) := by
  simp [meaning, hReferent]

------------------------------------------------------------
-- What Is Remembered
------------------------------------------------------------

/-
  What is remembered is right: every type is the definition
  of its name with all references inlined, and these lead
  to names that are remembered too and never back.
-/
structure Inlines
    (declared : CommonTypes)
    (memo : Memo) : Prop where
  ascending : memo.Ascending
  grounded : ∀ name ∈ memo.keys, declared.Grounded name
  closed :
    ∀ name ∈ memo.keys, ∀ other, declared.Refers name other →
      other ∈ memo.keys
  inlined :
    ∀ name type, memo.find? name = some type →
      ∃ ns spec,
        declared.find? name = some (ns, spec) ∧
          type = spec.inlined (declared.meaning memo ns) ns

/- Nothing is remembered at first. -/
theorem Inlines.nil
    (declared : CommonTypes) :
    declared.Inlines [] where
  ascending := Assoc.ascending_nil
  grounded := by simp [Assoc.keys]
  closed := by simp [Assoc.keys]
  inlined := by simp

/- Only declared names are remembered. -/
theorem Inlines.mem_keys
    {declared : CommonTypes}
    {memo : Memo}
    (hMemo : declared.Inlines memo)
    {name : String}
    (hName : name ∈ memo.keys) :
    name ∈ declared.keys := by
  rcases Assoc.exists_find?_of_mem_keys hName with ⟨type, hType⟩
  rcases hMemo.inlined name type hType with ⟨ns, spec, hFound, _⟩
  exact mem_keys_of_find? hFound

/- What the definition of a remembered name refers to is remembered. -/
theorem Inlines.bound
    {declared : CommonTypes}
    {memo : Memo}
    (hMemo : declared.Inlines memo)
    {name ns : String}
    {spec : TypeSpec}
    (hName : name ∈ memo.keys)
    (hFound : declared.find? name = some (ns, spec)) :
    ∀ bare ∈ spec.names, ∀ other,
      declared.referent? ns bare = some other →
        other ∈ memo.keys := by
  intro bare hBare other hReferent
  exact
    hMemo.closed name hName other
      ⟨ns, spec, hFound, bare, hBare, hReferent⟩

/- All types of one memo are in another. -/
def Keeps
    (memo after : Memo) : Prop :=
  ∀ name type, memo.find? name = some type →
    after.find? name = some type

/-
  From one memo to a later one: that is right too, and it
  has kept all types.
-/
structure Grows
    (declared : CommonTypes)
    (memo after : Memo) : Prop where
  inlines : declared.Inlines after
  keeps : Keeps memo after

/-
  A memo has grown to a later one, which has the types of
  all common types that bare names refer to.
-/
structure Settles
    (declared : CommonTypes)
    (ns : String)
    (names : List String)
    (memo after : Memo) : Prop
    extends declared.Grows memo after where
  bound :
    ∀ name ∈ names, ∀ other,
      declared.referent? ns name = some other →
        other ∈ after.keys

section Growth

variable {declared : CommonTypes}
variable {memo middle after : Memo}
variable {ns : String}

/- A memo that stays the same. -/
theorem Grows.refl
    (hMemo : declared.Inlines memo) :
    declared.Grows memo memo :=
  ⟨hMemo, fun _ _ hFound => hFound⟩

/- A memo that grows twice. -/
theorem Grows.trans
    (hFirst : declared.Grows memo middle)
    (hSecond : declared.Grows middle after) :
    declared.Grows memo after :=
  ⟨hSecond.inlines, fun name type hFound =>
    hSecond.keeps name type (hFirst.keeps name type hFound)⟩

/- No name is forgotten. -/
theorem Keeps.mem_keys
    (hKeeps : Keeps memo after)
    {name : String}
    (hName : name ∈ memo.keys) :
    name ∈ after.keys := by
  rcases Assoc.exists_find?_of_mem_keys hName with ⟨type, hType⟩
  exact
    Assoc.mem_keys_of_mem
      (Assoc.mem_of_find? (hKeeps name type hType))

/- Without names there is nothing to bind. -/
theorem Grows.settles_nil
    (hGrows : declared.Grows memo after) :
    declared.Settles ns [] memo after :=
  ⟨hGrows, by simp⟩

/- Names that are bound stay bound. -/
theorem Settles.append
    {names more : List String}
    (hFirst : declared.Settles ns names memo middle)
    (hSecond : declared.Settles ns more middle after) :
    declared.Settles ns (names ++ more) memo after := by
  refine ⟨hFirst.toGrows.trans hSecond.toGrows, ?_⟩
  intro name hName other hReferent
  rcases List.mem_append.mp hName with hOld | hNew
  · exact
      hSecond.keeps.mem_keys
        (hFirst.bound name hOld other hReferent)
  · exact hSecond.bound name hNew other hReferent

/- Names that are bound keep their meaning. -/
theorem meaning_eq_of_keeps
    {name : String}
    (hBound :
      ∀ other, declared.referent? ns name = some other →
        other ∈ memo.keys)
    (hKeeps : Keeps memo after) :
    declared.meaning memo ns name =
      declared.meaning after ns name := by
  cases hReferent : declared.referent? ns name with
  | none =>
      rw [meaning_of_none hReferent, meaning_of_none hReferent]
  | some other =>
      rcases Assoc.exists_find?_of_mem_keys
          (hBound other hReferent) with
        ⟨type, hType⟩
      rw [meaning_of_find? hReferent hType,
        meaning_of_find? hReferent (hKeeps other type hType)]

/- A specification whose names are bound keeps its type. -/
theorem inlined_eq_of_keeps
    {spec : TypeSpec}
    (hBound :
      ∀ name ∈ spec.names, ∀ other,
        declared.referent? ns name = some other →
          other ∈ memo.keys)
    (hKeeps : Keeps memo after) :
    spec.inlined (declared.meaning memo ns) ns =
      spec.inlined (declared.meaning after ns) ns :=
  TypeSpec.inlined_congr spec fun name hName =>
    meaning_eq_of_keeps (hBound name hName) hKeeps

end Growth

end CommonTypes

------------------------------------------------------------
-- Forms
------------------------------------------------------------

namespace TypeForm

open TypeSpec

/- A name that is not empty is given. -/
theorem given?_of_ne
    {name : String}
    (hName : name ≠ "") :
    given? (some name) = some name := by
  simp [given?, Option.filter_some, hName]

/- The type of an entity depends on whether a name is given. -/
theorem entityTy_eq
    (ns : String)
    (name : Option String) :
    entityTy ns name =
      (given? name).elim .anyEntity fun name =>
        .entity (EntityType.qualify ns name) := by
  cases name with
  | none => rfl
  | some name =>
      by_cases hEmpty : name = ""
      · subst hEmpty
        rfl
      · simp [entityTy, given?_of_ne hEmpty, hEmpty]

/- The type of an extension is that of the kind with the name. -/
theorem extensionTy_eq
    (name : Option String) :
    extensionTy name =
      (name.bind ExtensionKind.ofName?).elim .unknown
        .extension := by
  unfold extensionTy
  cases name.bind ExtensionKind.ofName? <;> rfl

/- What may be an entity type or a common type is the name given. -/
theorem entityOrCommon_eq
    (name : Option String) :
    entityOrCommon name =
      (given? name).elim (.plain .unspecified) .named := by
  cases name with
  | none => rfl
  | some name =>
      by_cases hEmpty : name = ""
      · subst hEmpty
        rfl
      · simp [entityOrCommon, given?_of_ne hEmpty, hEmpty]

/-
  The resolver takes each word for the kind that it is: sets
  and records have parts, bare names are looked up, and the
  others are types already.
-/
theorem of_eq
    (ns type : String)
    (name : Option String) :
    TypeForm.of ns type name =
      if type = "Set" then .set
      else if type = "Record" then .record
      else
        (bareName? type name).elim (.plain (plainTy ns type name))
          .named := by
  by_cases hWord :
      type ∈ "Set" :: "Record" :: "EntityOrCommon" :: plainKinds
  · simp only [plainKinds, List.mem_cons, List.not_mem_nil,
      or_false] at hWord
    rcases hWord with
      rfl | rfl | rfl | rfl | rfl | rfl | rfl | rfl | rfl | rfl
    · rfl
    · rfl
    · exact entityOrCommon_eq name
    · rfl
    · rfl
    · rfl
    · exact congrArg plain (entityTy_eq ns name)
    · exact congrArg plain (extensionTy_eq name)
    · rfl
    · rfl
  · simp only [plainKinds, List.mem_cons, List.not_mem_nil,
      or_false, not_or] at hWord
    simp [TypeForm.of, bareName?, plainKinds, hWord]

end TypeForm

------------------------------------------------------------
-- Resolving Specifications
------------------------------------------------------------

namespace TypeSpec

open Resolving

variable {declared : CommonTypes}
variable {lookup : String → Resolving Ty}
variable {ns : String}

/-
  A look up gives bare names their meanings: it remembers
  what a name refers to, unless that is on a cycle.
-/
def GivesMeaning
    (declared : CommonTypes)
    (lookup : String → Resolving Ty)
    (ns : String)
    (names : List String) : Prop :=
  ∀ name ∈ names, ∀ memo, declared.Inlines memo →
    Ends (lookup name) memo
      (fun type after =>
        declared.Settles ns [name] memo after ∧
          type = declared.meaning after ns name)
      declared.OnCycle

mutual

/-
  A specification has its inlined type, provided that the
  names in it are given their meanings. The cases follow the
  forms of specifications.
-/
theorem toTy_ends :
    (spec : TypeSpec) →
      GivesMeaning declared lookup ns (names spec) →
      ∀ memo, declared.Inlines memo →
        Ends (toTy lookup ns spec) memo
          (fun type after =>
            declared.Settles ns (names spec) memo after ∧
              type =
                inlined (declared.meaning after ns) ns spec)
          declared.OnCycle
  | ⟨type, element, attributes, name, _, additional, _⟩,
      hLookup, memo, hMemo => by
      rw [names] at hLookup ⊢
      unfold toTy inlined
      rw [TypeForm.of_eq]
      split_ifs at hLookup ⊢
      · apply Ends.bind (elementTy_ends element hLookup memo hMemo)
        rintro ty after ⟨hSettles, rfl⟩
        exact Ends.pure ⟨hSettles, rfl⟩
      · apply Ends.bind
          (recordAttrs_ends attributes hLookup memo hMemo)
        rintro attrs after ⟨hSettles, rfl⟩
        exact Ends.pure ⟨hSettles, rfl⟩
      · cases hBare : bareName? type name with
        | none =>
            exact
              Ends.pure
                ⟨(CommonTypes.Grows.refl hMemo).settles_nil, rfl⟩
        | some other =>
            exact hLookup other (by simp [hBare]) memo hMemo

/- The same for the element of a set. -/
theorem elementTy_ends :
    (element : Option TypeSpec) →
      GivesMeaning declared lookup ns (elementNames element) →
      ∀ memo, declared.Inlines memo →
        Ends (elementTy lookup ns element) memo
          (fun type after =>
            declared.Settles ns (elementNames element) memo
                after ∧
              type =
                elementInlined (declared.meaning after ns) ns
                  element)
          declared.OnCycle
  | none, _, memo, hMemo => by
      rw [elementTy, elementNames]
      refine
        Ends.pure ⟨(CommonTypes.Grows.refl hMemo).settles_nil, ?_⟩
      rw [elementInlined]
  | some element, hLookup, memo, hMemo => by
      rw [elementNames] at hLookup ⊢
      rw [elementTy]
      apply (toTy_ends element hLookup memo hMemo).imp
      rintro ty after ⟨hSettles, rfl⟩
      refine ⟨hSettles, ?_⟩
      rw [elementInlined]

/- The same for the attributes of a record. -/
theorem recordAttrs_ends :
    (attributes : Option (List (String × TypeSpec))) →
      GivesMeaning declared lookup ns (recordNames attributes) →
      ∀ memo, declared.Inlines memo →
        Ends (recordAttrs lookup ns attributes) memo
          (fun attrs after =>
            declared.Settles ns (recordNames attributes) memo
                after ∧
              attrs =
                recordInlined (declared.meaning after ns) ns
                  attributes)
          declared.OnCycle
  | none, _, memo, hMemo => by
      rw [recordAttrs, recordNames]
      refine
        Ends.pure ⟨(CommonTypes.Grows.refl hMemo).settles_nil, ?_⟩
      rw [recordInlined]
  | some attributes, hLookup, memo, hMemo => by
      rw [recordNames] at hLookup ⊢
      rw [recordAttrs]
      apply (attrTys_ends attributes hLookup memo hMemo).imp
      rintro attrs after ⟨hSettles, rfl⟩
      refine ⟨hSettles, ?_⟩
      rw [recordInlined]

/-
  The same for a table of attributes. What is resolved for
  later attributes does not change the types of earlier ones.
-/
theorem attrTys_ends :
    (attributes : List (String × TypeSpec)) →
      GivesMeaning declared lookup ns (tableNames attributes) →
      ∀ memo, declared.Inlines memo →
        Ends (attrTys lookup ns attributes) memo
          (fun attrs after =>
            declared.Settles ns (tableNames attributes) memo
                after ∧
              attrs =
                tableInlined (declared.meaning after ns) ns
                  attributes)
          declared.OnCycle
  | [], _, memo, hMemo => by
      rw [attrTys, tableNames]
      refine
        Ends.pure ⟨(CommonTypes.Grows.refl hMemo).settles_nil, ?_⟩
      rw [tableInlined]
  | (name, spec) :: rest, hLookup, memo, hMemo => by
      rw [tableNames] at hLookup ⊢
      rw [attrTys]
      have hSpec :=
        toTy_ends spec
          (fun other hOther =>
            hLookup other (List.mem_append_left _ hOther))
          memo hMemo
      apply Ends.bind hSpec
      rintro type middle ⟨hFirst, rfl⟩
      have hRest :=
        attrTys_ends rest
          (fun other hOther =>
            hLookup other (List.mem_append_right _ hOther))
          middle hFirst.inlines
      apply Ends.bind hRest
      rintro types after ⟨hSecond, rfl⟩
      refine Ends.pure ⟨hFirst.append hSecond, ?_⟩
      rw [tableInlined,
        CommonTypes.inlined_eq_of_keeps hFirst.bound
          hSecond.keeps]

end

end TypeSpec

------------------------------------------------------------
-- Resolving Names
------------------------------------------------------------

namespace CommonTypes

open Resolving

variable {declared : CommonTypes}

/- A common type is found, and its type is remembered. -/
def Finds
    (declared : CommonTypes)
    (name : String)
    (memo : Memo)
    (type? : Option Ty)
    (after : Memo) : Prop :=
  declared.Grows memo after ∧
    ∃ type, type? = some type ∧ after.find? name = some type

/-
  A bare name is given its meaning when the common type it
  refers to is found, and no other common type is.
-/
theorem resolveName_ends
    {common? : String → Resolving (Option Ty)}
    {ns name : String}
    {memo : Memo}
    (hMemo : declared.Inlines memo)
    (hFinds :
      ∀ other, declared.referent? ns name = some other →
        Ends (common? other) memo (declared.Finds other memo)
          declared.OnCycle)
    (hMissing :
      ∀ other, other ∉ declared.keys →
        Ends (common? other) memo
          (fun type? after => type? = none ∧ after = memo)
          declared.OnCycle) :
    Ends (resolveName common? ns name) memo
      (fun type after =>
        declared.Settles ns [name] memo after ∧
          type = declared.meaning after ns name)
      declared.OnCycle := by
  have hFound :
      ∀ other, declared.referent? ns name = some other →
        ∀ type? after, declared.Finds other memo type? after →
          ∃ type,
            type? = some type ∧
              declared.Settles ns [name] memo after ∧
              type = declared.meaning after ns name := by
    rintro other hReferent type? after ⟨hGrows, type, rfl, hType⟩
    refine ⟨type, rfl, ⟨hGrows, ?_⟩, ?_⟩
    · intro bare hBare another hAnother
      rw [List.mem_singleton.mp hBare, hReferent] at hAnother
      rw [← Option.some.inj hAnother]
      exact Assoc.mem_keys_of_mem (Assoc.mem_of_find? hType)
    · exact (meaning_of_find? hReferent hType).symm
  have hEntity :
      declared.referent? ns name = none →
        declared.Settles ns [name] memo memo ∧
          Ty.entity (EntityType.qualify ns name) =
            declared.meaning memo ns name := by
    intro hReferent
    refine ⟨⟨Grows.refl hMemo, ?_⟩, (meaning_of_none hReferent).symm⟩
    intro bare hBare another hAnother
    rw [List.mem_singleton.mp hBare, hReferent] at hAnother
    cases hAnother
  unfold resolveName
  by_cases hQualified :
      (EntityType.qualify ns name).name ∈ declared.keys
  · have hReferent :
        declared.referent? ns name =
          some (EntityType.qualify ns name).name := by
      simp [referent?, hQualified]
    apply Ends.bind (hFinds _ hReferent)
    intro type? after hType
    rcases hFound _ hReferent type? after hType with
      ⟨type, rfl, hDone⟩
    exact Ends.pure hDone
  · apply Ends.bind (hMissing _ hQualified)
    rintro _ _ ⟨rfl, rfl⟩
    by_cases hSame : (EntityType.qualify ns name).name = name
    · have hReferent : declared.referent? ns name = none := by
        rw [hSame] at hQualified
        simp [referent?, hSame, hQualified]
      simp only [hSame, if_true]
      exact Ends.pure (hEntity hReferent)
    · simp only [hSame, if_false]
      by_cases hWritten : name ∈ declared.keys
      · have hReferent : declared.referent? ns name = some name := by
          simp [referent?, hQualified, hWritten]
        apply Ends.bind (hFinds _ hReferent)
        intro type? after hType
        rcases hFound _ hReferent type? after hType with
          ⟨type, rfl, hDone⟩
        exact Ends.pure hDone
      · have hReferent : declared.referent? ns name = none := by
          simp [referent?, hQualified, hWritten]
        apply Ends.bind (hMissing _ hWritten)
        rintro _ _ ⟨rfl, rfl⟩
        exact Ends.pure (hEntity hReferent)

/- A name that is not declared is no common type. -/
theorem resolve_of_not_mem
    {inProgress : List String}
    {name : String}
    {memo : Memo}
    (hMemo : declared.Inlines memo)
    (hName : name ∉ declared.keys) :
    Ends (declared.resolve inProgress name) memo
      (fun type? after => type? = none ∧ after = memo)
      declared.OnCycle := by
  have hFound : declared.find? name = none :=
    Assoc.find?_eq_none_iff.mpr hName
  have hKnown : memo.find? name = none :=
    Assoc.find?_eq_none_iff.mpr fun hMem =>
      hName (hMemo.mem_keys hMem)
  rw [resolve]
  apply Ends.get_bind
  simp only [hKnown]
  split
  · exact Ends.pure ⟨rfl, rfl⟩
  · rename_i ns spec hSome
    rw [hFound] at hSome
    cases hSome

/-
  Remembering the inlined type of a name whose references
  are all remembered keeps what is remembered right.
-/
theorem Inlines.grows_insert
    {ns name : String}
    {spec : TypeSpec}
    {memo : Memo}
    (hMemo : declared.Inlines memo)
    (hFound : declared.find? name = some (ns, spec))
    (hBound :
      ∀ bare ∈ spec.names, ∀ other,
        declared.referent? ns bare = some other →
          other ∈ memo.keys) :
    declared.Grows memo
      (memo.insert name
        (spec.inlined (declared.meaning memo ns) ns)) := by
  -- The name may be remembered already, but only with this type.
  have hKeeps :
      Keeps memo
        (memo.insert name
          (spec.inlined (declared.meaning memo ns) ns)) := by
    intro other type hType
    by_cases hOther : other = name
    · subst hOther
      rcases hMemo.inlined other type hType with
        ⟨ns', spec', hFound', rfl⟩
      rw [hFound] at hFound'
      rcases Prod.mk.inj (Option.some.inj hFound') with ⟨rfl, rfl⟩
      exact Assoc.find?_insert_self _ _ _
    · rw [Assoc.find?_insert_of_ne hOther]
      exact hType
  have hRefers :
      ∀ other, declared.Refers name other → other ∈ memo.keys := by
    rintro other ⟨ns', spec', hFound', bare, hBare, hReferent⟩
    rw [hFound] at hFound'
    rcases Prod.mk.inj (Option.some.inj hFound') with ⟨rfl, rfl⟩
    exact hBound bare hBare other hReferent
  refine ⟨⟨?_, ?_, ?_, ?_⟩, hKeeps⟩
  · exact Assoc.ascending_insert hMemo.ascending _ _
  · intro other hOther
    rcases Assoc.mem_keys_insert hOther with rfl | hOld
    · exact
        Acc.intro other fun next hNext =>
          hMemo.grounded next (hRefers next hNext)
    · exact hMemo.grounded other hOld
  · intro other hOther next hNext
    apply hKeeps.mem_keys
    rcases Assoc.mem_keys_insert hOther with rfl | hOld
    · exact hRefers next hNext
    · exact hMemo.closed other hOld next hNext
  · intro other type hType
    by_cases hOther : other = name
    · subst hOther
      rw [Assoc.find?_insert_self] at hType
      refine ⟨ns, spec, hFound, ?_⟩
      rw [← Option.some.inj hType]
      exact inlined_eq_of_keeps hBound hKeeps
    · rw [Assoc.find?_insert_of_ne hOther] at hType
      rcases hMemo.inlined other type hType with
        ⟨ns', spec', hFound', rfl⟩
      refine ⟨ns', spec', hFound', ?_⟩
      have hName : other ∈ memo.keys :=
        Assoc.mem_keys_of_mem (Assoc.mem_of_find? hType)
      exact
        inlined_eq_of_keeps (hMemo.bound hName hFound') hKeeps

/-
  A declared name is found, unless the error names a type
  on a cycle. The names in progress all refer to the name,
  directly or through others, so the name closes a cycle if
  it is one of them. The recursion is that of the resolver:
  each reference leaves one name less to wait for.
-/
theorem resolve_ends
    (inProgress : List String)
    (name : String)
    (hName : name ∈ declared.keys)
    (hPath :
      ∀ busy ∈ inProgress,
        Relation.TransGen declared.Refers busy name)
    (memo : Memo)
    (hMemo : declared.Inlines memo) :
    Ends (declared.resolve inProgress name) memo
      (declared.Finds name memo) declared.OnCycle := by
  rw [resolve]
  apply Ends.get_bind
  cases hKnown : memo.find? name with
  | some type =>
      exact Ends.pure ⟨Grows.refl hMemo, type, rfl, hKnown⟩
  | none =>
      simp only
      split
      · rename_i hNone
        exact absurd hName (Assoc.find?_eq_none_iff.mp hNone)
      · rename_i ns spec hFound
        by_cases hBusy : name ∈ inProgress
        · rw [if_pos hBusy]
          exact Ends.throw ⟨name, rfl, hPath name hBusy⟩
        · rw [if_neg hBusy]
          have hLookup :
              TypeSpec.GivesMeaning declared
                (resolveName
                  (fun other =>
                    declared.resolve (name :: inProgress) other)
                  ns)
                ns (spec.names) := by
            intro bare hBare now hNow
            apply resolveName_ends hNow
            · intro other hReferent
              have hRefers : declared.Refers name other :=
                ⟨ns, spec, hFound, bare, hBare, hReferent⟩
              apply resolve_ends (name :: inProgress) other
                (mem_keys_of_referent? hReferent) _ now hNow
              intro busy hIn
              rcases List.mem_cons.mp hIn with rfl | hOld
              · exact .single hRefers
              · exact .tail (hPath busy hOld) hRefers
            · intro other hOther
              exact resolve_of_not_mem hNow hOther
          apply Ends.bind
            (TypeSpec.toTy_ends spec hLookup memo hMemo)
          rintro type middle ⟨hSettles, rfl⟩
          apply Ends.modify_bind
          have hInsert :=
            hSettles.inlines.grows_insert hFound hSettles.bound
          exact
            Ends.pure
              ⟨hSettles.toGrows.trans hInsert, _, rfl,
                Assoc.find?_insert_self _ _ _⟩
termination_by (declared.waiting inProgress).length
decreasing_by
  exact Graph.filter_notMem_cons_length_lt hName hBusy

/- A specification has its inlined type, whatever is remembered. -/
theorem type_ends
    (ns : String)
    (spec : TypeSpec)
    {memo : Memo}
    (hMemo : declared.Inlines memo) :
    Ends (declared.type ns spec) memo
      (fun type after =>
        declared.Settles ns (spec.names) memo after ∧
          type = spec.inlined (declared.meaning after ns) ns)
      declared.OnCycle := by
  refine TypeSpec.toTy_ends spec ?_ memo hMemo
  intro bare _ now hNow
  apply resolveName_ends hNow
  · intro other hReferent
    exact
      resolve_ends [] other (mem_keys_of_referent? hReferent)
        (by simp) now hNow
  · intro other hOther
    exact resolve_of_not_mem hNow hOther

------------------------------------------------------------
-- Resolving All Names
------------------------------------------------------------

/- Declared names are remembered one after the other. -/
theorem resolveNames_ends
    (names : List String)
    (hNames : ∀ name ∈ names, name ∈ declared.keys)
    {memo : Memo}
    (hMemo : declared.Inlines memo) :
    Ends (declared.resolveNames names) memo
      (fun _ after =>
        declared.Grows memo after ∧
          ∀ name ∈ names, name ∈ after.keys)
      declared.OnCycle := by
  induction names generalizing memo with
  | nil => exact Ends.pure ⟨Grows.refl hMemo, by simp⟩
  | cons name rest ih =>
      rw [resolveNames]
      apply Ends.bind
        (resolve_ends [] name (hNames name List.mem_cons_self)
          (by simp) memo hMemo)
      rintro _ middle ⟨hFirst, type, rfl, hType⟩
      apply
        (ih (fun other hOther =>
            hNames other (List.mem_cons_of_mem _ hOther))
          hFirst.inlines).imp
      rintro _ after ⟨hRest, hAll⟩
      refine ⟨hFirst.trans hRest, ?_⟩
      intro other hOther
      rcases List.mem_cons.mp hOther with rfl | hLater
      · exact
          hRest.keeps.mem_keys
            (Assoc.mem_keys_of_mem (Assoc.mem_of_find? hType))
      · exact hAll other hLater

/- All common types are remembered with their inlined types. -/
structure Complete
    (declared : CommonTypes)
    (types : Memo) : Prop
    extends declared.Inlines types where
  all : ∀ name ∈ declared.keys, name ∈ types.keys

/- Resolving all names completes what is remembered. -/
theorem resolveAll_ends
    {memo : Memo}
    (hMemo : declared.Inlines memo) :
    Ends declared.resolveAll memo
      (fun types _ => declared.Complete types)
      declared.OnCycle := by
  apply Ends.bind
    (resolveNames_ends declared.keys (fun _ hName => hName) hMemo)
  rintro _ after ⟨hGrows, hAll⟩
  exact Ends.get ⟨hGrows.inlines, hAll⟩

namespace Complete

variable {types other : Memo}

/- The type of a declared name is its definition, inlined. -/
theorem find?_eq
    (hTypes : declared.Complete types)
    {name ns : String}
    {spec : TypeSpec}
    (hFound : declared.find? name = some (ns, spec)) :
    types.find? name =
      some (spec.inlined (declared.meaning types ns) ns) := by
  rcases Assoc.exists_find?_of_mem_keys
      (hTypes.all name (mem_keys_of_find? hFound)) with
    ⟨type, hType⟩
  rcases hTypes.inlined name type hType with
    ⟨ns', spec', hFound', rfl⟩
  rw [hFound] at hFound'
  rcases Prod.mk.inj (Option.some.inj hFound') with ⟨rfl, rfl⟩
  exact hType

/- Where all names are resolved, none is on a cycle. -/
theorem not_transGen
    (hTypes : declared.Complete types)
    (name : String) :
    ¬ Relation.TransGen declared.Refers name name := by
  intro hCycle
  rcases Relation.TransGen.head'_iff.mp hCycle with
    ⟨next, hRefers, _⟩
  have hName := hTypes.all name hRefers.mem_keys
  exact (hTypes.grounded name hName).not_transGen hCycle

/- Where all names are resolved, no error is to be expected. -/
theorem not_onCycle
    (hTypes : declared.Complete types)
    (e : SchemaError) :
    ¬ declared.OnCycle e := by
  rintro ⟨name, _, hCycle⟩
  exact hTypes.not_transGen name hCycle

/-
  Whatever is remembered at any time has the types that are
  there in the end. The induction is on the references of a
  name, which lead to grounded names.
-/
theorem keeps
    (hTypes : declared.Complete types)
    {memo : Memo}
    (hMemo : declared.Inlines memo) :
    Keeps memo types := by
  intro name type hType
  have hName : name ∈ memo.keys :=
    Assoc.mem_keys_of_mem (Assoc.mem_of_find? hType)
  have hGrounded := hMemo.grounded name hName
  induction hGrounded generalizing type with
  | intro name _ ih =>
      rcases hMemo.inlined name type hType with
        ⟨ns, spec, hFound, rfl⟩
      rw [hTypes.find?_eq hFound]
      apply congrArg some
      apply TypeSpec.inlined_congr
      intro bare hBare
      cases hReferent : declared.referent? ns bare with
      | none =>
          rw [meaning_of_none hReferent, meaning_of_none hReferent]
      | some other =>
          have hOther :=
            hMemo.bound hName hFound bare hBare other hReferent
          rcases Assoc.exists_find?_of_mem_keys hOther with
            ⟨found, hThere⟩
          have hKept :=
            ih other ⟨ns, spec, hFound, bare, hBare, hReferent⟩
              found hThere hOther
          rw [meaning_of_find? hReferent hThere,
            meaning_of_find? hReferent hKept]

/- There is only one way to inline all common types. -/
theorem unique
    (hTypes : declared.Complete types)
    (hOther : declared.Complete other) :
    types = other := by
  apply Assoc.ext_find? hTypes.ascending hOther.ascending
  intro name
  cases hType : types.find? name with
  | some type =>
      exact (hOther.keeps hTypes.toInlines name type hType).symm
  | none =>
      cases hThere : other.find? name with
      | none => rfl
      | some type =>
          have hBack :=
            hTypes.keeps hOther.toInlines name type hThere
          rw [hType] at hBack
          cases hBack

end Complete

end CommonTypes

end PolicyCheck
