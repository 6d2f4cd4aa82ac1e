import PolicyCheck.Proofs.Candidates

/-
  Which schemas are accepted. Unless unknown names are
  allowed, a schema is refused exactly for those that stand
  in its lists and are not declared, and these are reported
  in full. Every schema that is accepted is in order: its
  declarations stand under their own names, its lists have
  no repeats, and its actions have types of actions.

  Main declarations:
    * `FirstOccurrences`
    * `pairwise_ascending`
    * `EntityType.isAction_qualify`
    * `EntityTypeInfo.Follows`
    * `ActionInfo.Follows`
    * `Schema.follows_of_build`
    * `strict_refuses_only_undeclared_names`
-/

namespace PolicyCheck

------------------------------------------------------------
-- Lists Without Repeats
------------------------------------------------------------

/-
  A list has the elements of another one, each once, in the
  order in which they occur there first.
-/
structure FirstOccurrences
    {α : Type} [DecidableEq α]
    (all kept : List α) : Prop where
  mem_iff : ∀ a, a ∈ kept ↔ a ∈ all
  nodup : kept.Nodup
  order : kept.Pairwise fun a b => all.idxOf a < all.idxOf b

section Repeats

variable {α : Type} [DecidableEq α]

/- Elements that are left keep the order of their first occurrences. -/
theorem pairwise_idxOf_distinct
    (xs : List α) :
    (distinct xs).Pairwise fun a b => xs.idxOf a < xs.idxOf b := by
  induction xs with
  | nil => exact List.Pairwise.nil
  | cons x xs ih =>
      have hLater :
          ∀ a, a ≠ x → (x :: xs).idxOf a = xs.idxOf a + 1 := by
        intro a hOther
        rw [List.idxOf_cons, beq_false_of_ne hOther.symm]
        rfl
      rw [distinct, List.pairwise_cons]
      constructor
      · intro b hKept
        have hOther : b ≠ x := by
          simpa using (List.mem_filter.mp hKept).2
        rw [List.idxOf_cons_self, hLater b hOther]
        exact Nat.succ_pos _
      · rw [List.pairwise_filter]
        apply ih.imp
        intro a b hLt hA hB
        rw [hLater a (by simpa using hA), hLater b (by simpa using hB)]
        exact Nat.succ_lt_succ hLt

/- Removing repeats keeps the first occurrences. -/
theorem firstOccurrences_distinct
    (xs : List α) :
    FirstOccurrences xs (distinct xs) where
  mem_iff _ := mem_distinct
  nodup := nodup_distinct xs
  order := pairwise_idxOf_distinct xs

variable [LT α] [DecidableLT α]

/- What is in order already stays as it is. -/
theorem ascending_of_pairwise
    {xs : List α}
    (hAscending : xs.Pairwise (· < ·)) :
    ascending xs = xs := by
  induction hAscending with
  | nil => rfl
  | @cons x xs hFirst _ ih =>
      have hStep :
          ascending (x :: xs) = insertAscending x (ascending xs) :=
        rfl
      rw [hStep, ih]
      cases xs with
      | nil => rfl
      | cons y ys =>
          rw [insertAscending, if_pos (hFirst y List.mem_cons_self)]

variable [Trans (α := α) (· < ·) (· < ·) (· < ·)]
variable [Std.Trichotomous (α := α) (· < ·)]

/- A list stays ascending when an element is put at its place. -/
theorem pairwise_insertAscending
    (x : α)
    {xs : List α}
    (hAscending : xs.Pairwise (· < ·)) :
    (insertAscending x xs).Pairwise (· < ·) := by
  induction xs with
  | nil => exact List.pairwise_singleton _ _
  | cons y ys ih =>
      have hParts := List.pairwise_cons.mp hAscending
      unfold insertAscending
      split
      · rename_i hLt
        refine List.pairwise_cons.mpr ⟨?_, hAscending⟩
        intro z hMem
        rcases List.mem_cons.mp hMem with rfl | hRest
        · exact hLt
        · exact Trans.trans hLt (hParts.1 z hRest)
      · rename_i hNotLt
        split
        · exact hAscending
        · rename_i hNe
          refine List.pairwise_cons.mpr ⟨?_, ih hParts.2⟩
          intro z hMem
          rcases mem_insertAscending.mp hMem with rfl | hRest
          · by_cases hGt : y < z
            · exact hGt
            · exact
                absurd
                  (Std.Trichotomous.trichotomous z y hNotLt hGt) hNe
          · exact hParts.1 z hRest

/- Sorting leaves no repeats and no descents. -/
theorem pairwise_ascending
    (xs : List α) :
    (ascending xs).Pairwise (· < ·) := by
  induction xs with
  | nil => exact List.Pairwise.nil
  | cons x xs ih => exact pairwise_insertAscending x ih

end Repeats

------------------------------------------------------------
-- Types Of Actions
------------------------------------------------------------

/- In every namespace the type of actions is a type of actions. -/
theorem EntityType.isAction_qualify
    (ns : String) :
    (qualify ns actionName).isAction = true := by
  unfold qualify
  split
  · rfl
  · have hReversed :
        (ns ++ "::" ++ actionName).toList.reverse =
          ['n', 'o', 'i', 't', 'c', 'A', ':', ':'] ++
            ns.toList.reverse := by
      simp [actionName]
    have hBase :
        basename ⟨ns ++ "::" ++ actionName⟩ = actionName := by
      simp only [basename, split?, hReversed]
      rfl
    simp [isAction, hBase]

------------------------------------------------------------
-- Declarations That Are Followed
------------------------------------------------------------

/-
  An entity type has the qualified name of its declaration,
  and lists the qualified names that are listed there.
-/
structure EntityTypeInfo.Follows
    (info : EntityTypeInfo)
    (declaration : Declaration EntityTypeSpec) : Prop where
  name :
    info.name =
      EntityType.qualify declaration.ns declaration.name
  memberOf :
    FirstOccurrences
      (declaration.spec.memberOfTypes.map
        (EntityType.qualify declaration.ns))
      info.memberOf

/-
  An action has the type of actions of the namespace of its
  declaration, and lists the qualified names listed there.
-/
structure ActionInfo.Follows
    (info : ActionInfo)
    (declaration : Declaration ActionSpec) : Prop where
  name :
    info.name =
      ⟨EntityType.qualify declaration.ns EntityType.actionName,
        declaration.name⟩
  principals :
    FirstOccurrences
      (declaration.spec.principalTypes.map
        (EntityType.qualify declaration.ns))
      info.principals
  resources :
    FirstOccurrences
      (declaration.spec.resourceTypes.map
        (EntityType.qualify declaration.ns))
      info.resources
  memberOf :
    FirstOccurrences
      ((declaration.spec.memberOf.getD []).map
        (ActionRef.toUid declaration.ns))
      info.memberOf

section Inlined

variable {declared : CommonTypes} {types : Memo}

/- What a declaration of an entity type makes follows it. -/
theorem EntityTypeInfo.follows_of_inlined?
    {declaration : Declaration EntityTypeSpec}
    {info : EntityTypeInfo}
    (hMade : inlined? declared types declaration = some info) :
    info.Follows declaration := by
  rcases Option.map_eq_some_iff.mp hMade with ⟨shape, _, rfl⟩
  exact ⟨rfl, firstOccurrences_distinct _⟩

/- What a declaration of an action makes follows it. -/
theorem ActionInfo.follows_of_inlined?
    {declaration : Declaration ActionSpec}
    {info : ActionInfo}
    (hMade : inlined? declared types declaration = some info) :
    info.Follows declaration := by
  rcases Option.map_eq_some_iff.mp hMade with ⟨context, _, rfl⟩
  exact
    ⟨rfl, firstOccurrences_distinct _, firstOccurrences_distinct _,
      firstOccurrences_distinct _⟩

end Inlined

namespace Schema

variable {fragments : List Fragment}
variable {schema : Schema}

/-
  Each declaration stands under its own name in a schema and
  follows one that fragments make; actions have types of
  actions.
-/
structure Follows
    (schema : Schema)
    (fragments : List Fragment) : Prop where
  types :
    ∀ type info, (type, info) ∈ schema.entityTypes →
      info.name = type ∧
        ∃ declaration ∈
            Fragment.declarations NamespaceSpec.entityTypes fragments,
          info.Follows declaration
  actions :
    ∀ uid info, (uid, info) ∈ schema.actions →
      info.name = uid ∧
        uid.type.isAction = true ∧
        ∃ declaration ∈
            Fragment.declarations NamespaceSpec.actions fragments,
          info.Follows declaration

/- A schema that is built follows the fragments. -/
theorem follows_of_build
    {allowUnknown : Bool}
    (hBuilt : build allowUnknown fragments = .ok schema) :
    schema.Follows fragments := by
  rcases exists_declares_of_build hBuilt with
    ⟨declared, _, hSchema⟩
  constructor
  · intro type info hMem
    rcases hSchema.types.mem_iff.mp hMem with
      ⟨hName, declaration, hDeclaration, hMade⟩
    exact
      ⟨hName.symm, declaration, hDeclaration,
        EntityTypeInfo.follows_of_inlined? hMade⟩
  · intro uid info hMem
    rcases hSchema.actions.mem_iff.mp hMem with
      ⟨hName, declaration, hDeclaration, hMade⟩
    have hFollows := ActionInfo.follows_of_inlined? hMade
    refine
      ⟨hName.symm, ?_, declaration, hDeclaration, hFollows⟩
    rw [hName, hFollows.name]
    exact EntityType.isAction_qualify _

/-
  Where all types are declared, an action applies exactly if
  it has principals and resources.
-/
theorem hasValidAppliesTo_iff_of_closed
    (hClosed : schema.Closed)
    {info : ActionInfo}
    (hInfo : info ∈ schema.actionInfos) :
    schema.hasValidAppliesTo info = true ↔
      info.principals ≠ [] ∧ info.resources ≠ [] := by
  constructor
  · intro hValid
    simp only [hasValidAppliesTo, Bool.and_eq_true,
      Bool.not_eq_true', List.isEmpty_eq_false_iff] at hValid
    exact hValid.1
  · rintro ⟨hPrincipals, hResources⟩
    rcases List.exists_mem_of_ne_nil _ hPrincipals with
      ⟨principal, hPrincipal⟩
    rcases List.exists_mem_of_ne_nil _ hResources with
      ⟨resource, hResource⟩
    exact
      hasValidAppliesTo_of_closed hClosed hInfo hPrincipal hResource

------------------------------------------------------------
-- Strict And Lenient
------------------------------------------------------------

/- An error is reported whether or not unknown names are allowed. -/
theorem build_false_eq_error
    {e : SchemaError}
    (hError : build true fragments = .error e) :
    build false fragments = .error e := by
  rw [build_false_eq, hError]
  rfl

/- Types that are lacking are reported all at once, in order. -/
theorem build_false_of_lacksType
    (hBuilt : build true fragments = .ok schema)
    (hLacks : ∃ type, schema.LacksType type) :
    ∃ types,
      build false fragments = .error (.undeclaredTypes types) ∧
        types.Pairwise (· < ·) ∧
        ∀ type, type ∈ types ↔ schema.LacksType type := by
  have hSome : schema.undeclaredTypes ≠ [] := by
    rw [Ne, undeclaredTypes_eq_nil_iff]
    exact fun hNone => hLacks.elim hNone
  refine
    ⟨schema.undeclaredTypes, ?_, pairwise_ascending _,
      fun _ => mem_undeclaredTypes_iff⟩
  rw [build_false_eq, hBuilt]
  simp [bind, Except.bind, checkDeclarations, hSome]

/- So are actions that are lacking, if no types are. -/
theorem build_false_of_lacksAction
    (hBuilt : build true fragments = .ok schema)
    (hTypes : ∀ type, ¬ schema.LacksType type)
    (hLacks : ∃ uid, schema.LacksAction uid) :
    ∃ uids,
      build false fragments = .error (.undeclaredActions uids) ∧
        uids.Pairwise (· < ·) ∧
        ∀ uid, uid ∈ uids ↔ schema.LacksAction uid := by
  have hNone : schema.undeclaredTypes = [] :=
    undeclaredTypes_eq_nil_iff.mpr hTypes
  have hSome : schema.undeclaredActions ≠ [] := by
    rw [Ne, undeclaredActions_eq_nil_iff]
    exact fun hNone => hLacks.elim hNone
  refine
    ⟨schema.undeclaredActions, ?_, pairwise_ascending _,
      fun _ => mem_undeclaredActions_iff⟩
  rw [build_false_eq, hBuilt]
  simp [bind, Except.bind, checkDeclarations, hNone, hSome]

/- Where nothing is lacking, no type of an action is malformed. -/
theorem isMalformed_eq_false_of_closed
    (hClosed : schema.Closed)
    {info : ActionInfo}
    (hInfo : info ∈ schema.actionInfos)
    {type : EntityType}
    (hType : type ∈ info.principals ++ info.resources) :
    schema.isMalformed type = false := by
  apply isMalformed_eq_false
  rcases List.mem_append.mp hType with hPrincipal | hResource
  · exact hClosed.principals info hInfo type hPrincipal
  · exact hClosed.resources info hInfo type hResource

end Schema

/-
  Allowing unknown names makes a difference only for names
  that stand in lists of a schema and are not declared. If
  there are such types, these are what is refused, each once
  and in ascending order; if there are only such actions,
  then these. Every schema that is accepted follows what the
  fragments declare. If unknown names are not allowed, no
  type that an action applies to is malformed, so an action
  applies exactly if it has principals and resources.
-/
theorem strict_refuses_only_undeclared_names
    (fragments : List Fragment) :
    (∀ e, Schema.build true fragments = .error e →
      Schema.build false fragments = .error e) ∧
    (∀ schema, Schema.build true fragments = .ok schema →
      (Schema.build false fragments = .ok schema ↔
        (∀ type, ¬ schema.LacksType type) ∧
          ∀ uid, ¬ schema.LacksAction uid) ∧
      ((∃ type, schema.LacksType type) →
        ∃ types,
          Schema.build false fragments =
              .error (.undeclaredTypes types) ∧
            types.Pairwise (· < ·) ∧
            ∀ type, type ∈ types ↔ schema.LacksType type) ∧
      ((∀ type, ¬ schema.LacksType type) →
        (∃ uid, schema.LacksAction uid) →
        ∃ uids,
          Schema.build false fragments =
              .error (.undeclaredActions uids) ∧
            uids.Pairwise (· < ·) ∧
            ∀ uid, uid ∈ uids ↔ schema.LacksAction uid)) ∧
    (∀ allowUnknown schema,
      Schema.build allowUnknown fragments = .ok schema →
        schema.Follows fragments) ∧
    ∀ schema, Schema.build false fragments = .ok schema →
      ∀ info ∈ schema.actionInfos,
        (∀ type ∈ info.principals ++ info.resources,
          schema.isMalformed type = false) ∧
        (schema.hasValidAppliesTo info = true ↔
          info.principals ≠ [] ∧ info.resources ≠ []) := by
  refine ⟨fun _ => Schema.build_false_eq_error, ?_, ?_, ?_⟩
  · intro schema hBuilt
    refine
      ⟨?_, Schema.build_false_of_lacksType hBuilt,
        Schema.build_false_of_lacksAction hBuilt⟩
    rw [Schema.build_false_eq_ok_iff,
      Schema.checkDeclarations_eq_ok_iff]
    exact and_iff_right hBuilt
  · intro allowUnknown schema hBuilt
    exact Schema.follows_of_build hBuilt
  · intro schema hBuilt info hInfo
    have hClosed := Schema.closed_of_build hBuilt
    exact
      ⟨fun _ hType =>
          Schema.isMalformed_eq_false_of_closed hClosed hInfo hType,
        Schema.hasValidAppliesTo_iff_of_closed hClosed hInfo⟩

/-
  The animals of a park are members of a zoo, which is named
  twice, and of an ark. Neither is declared.
-/
def parkFragment : Fragment :=
  ⟨[("Park", { (default : NamespaceSpec) with
      entityTypes := [
        ("Animal", { (default : EntityTypeSpec) with
          memberOfTypes := ["Zoo", "Ark", "Zoo"] }),
        ("Keeper", default)]
      actions := [
        ("feed", { (default : ActionSpec) with
          appliesTo := some ⟨["Animal"], ["Keeper"], none⟩
          memberOf := some [⟨"care", none⟩] })] })]⟩

/- The schema of the park. -/
def parkSchema : Schema :=
  ⟨[(⟨"Park::Animal"⟩,
        ⟨⟨"Park::Animal"⟩, .anything,
          [⟨"Park::Zoo"⟩, ⟨"Park::Ark"⟩]⟩),
      (⟨"Park::Keeper"⟩, ⟨⟨"Park::Keeper"⟩, .anything, []⟩)],
    [(⟨⟨"Park::Action"⟩, "feed"⟩,
        ⟨⟨⟨"Park::Action"⟩, "feed"⟩, [⟨"Park::Keeper"⟩],
          [⟨"Park::Animal"⟩], .anything,
          [⟨⟨"Park::Action"⟩, "care"⟩]⟩)],
    []⟩

/-
  The park is accepted if unknown names are allowed. If not,
  the zoo is among the types it is refused for, and nothing
  is said of the action that is not declared either.
-/
theorem park_refused_for_undeclared_types :
    Schema.build true [parkFragment] = .ok parkSchema ∧
      parkSchema.LacksType ⟨"Park::Zoo"⟩ ∧
      parkSchema.LacksAction ⟨⟨"Park::Action"⟩, "care"⟩ ∧
      ∃ types,
        Schema.build false [parkFragment] =
            .error (.undeclaredTypes types) ∧
          types.Pairwise (· < ·) ∧
          ∀ type, type ∈ types ↔ parkSchema.LacksType type := by
  have hBuilt :
      Schema.build true [parkFragment] = .ok parkSchema := by
    rfl
  have hZoo : parkSchema.LacksType ⟨"Park::Zoo"⟩ :=
    ⟨.inl ⟨_, List.mem_cons_self, List.mem_cons_self⟩, by decide⟩
  have hCare :
      parkSchema.LacksAction ⟨⟨"Park::Action"⟩, "care"⟩ :=
    ⟨⟨_, List.mem_cons_self, List.mem_cons_self⟩, by decide⟩
  rcases (strict_refuses_only_undeclared_names [parkFragment]).2.1
      parkSchema hBuilt with
    ⟨_, hTypes, _⟩
  exact ⟨hBuilt, hZoo, hCare, hTypes ⟨_, hZoo⟩⟩

end PolicyCheck
