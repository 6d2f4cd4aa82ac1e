import PolicyCheck.Proofs.Candidates
import PolicyCheck.Proofs.NameOrder
import PolicyCheck.Schema.Fragment

/-
  Which actions a scope lets through, and in which order.
  Groups come as they are listed, each with the members that
  no earlier group has, and the members of a group come in
  ascending order. No action comes twice, whatever the
  groups have in common.

  Main declarations:
    * `distinctBy_append`
    * `Schema.FirstGroup`
    * `Schema.GroupOrder`
    * `ActionConstraint.Precedes`
    * `Schema.pairwise_members`
    * `candidates_admitted_in_order`
    * `workshop_candidates_in_order`
-/

------------------------------------------------------------
-- Repeats
------------------------------------------------------------

namespace PolicyCheck

section Repeats

variable {α β : Type} [DecidableEq β] {key : α → β}

/- Nothing is removed where no key is repeated. -/
theorem distinctBy_of_nodup
    {xs : List α}
    (hKeys : (xs.map key).Nodup) :
    distinctBy key xs = xs := by
  induction xs with
  | nil => rfl
  | cons x rest ih =>
      rw [List.map_cons, List.nodup_cons] at hKeys
      rw [distinctBy, ih hKeys.2, List.filter_eq_self.mpr]
      intro y hY
      have hNe : key y ≠ key x := by
        intro hSame
        exact hKeys.1 (List.mem_map.mpr ⟨y, hY, hSame⟩)
      simpa using hNe

/-
  Of a list that follows another one, what is left has none
  of the keys that came before.
-/
theorem distinctBy_append
    (xs ys : List α) :
    distinctBy key (xs ++ ys) =
      distinctBy key xs ++
        (distinctBy key ys).filter fun y => key y ∉ xs.map key := by
  induction xs with
  | nil =>
      have hAll :
          ∀ y ∈ distinctBy key ys,
            decide (key y ∉ ([] : List α).map key) = true := by
        simp
      exact (List.filter_eq_self.mpr hAll).symm
  | cons x rest ih =>
      rw [List.cons_append, distinctBy, distinctBy, ih,
        List.filter_append, List.filter_filter, List.cons_append]
      congr 2
      apply List.filter_congr
      intro y _
      simp [List.mem_cons, not_or]

end Repeats

------------------------------------------------------------
-- Groups In The Order Of A List
------------------------------------------------------------

namespace Schema

variable {schema : Schema} {groups : List EntityUid}

/- The place of the first group of a list that an action is in. -/
structure FirstGroup
    (schema : Schema)
    (groups : List EntityUid)
    (action : EntityUid)
    (place : Nat) : Prop where
  here :
    ∃ group, groups[place]? = some group ∧
      schema.InGroup action group
  before :
    ∀ i < place, ∀ group, groups[i]? = some group →
      ¬ schema.InGroup action group

namespace FirstGroup

variable {action group : EntityUid} {place other : Nat}

/- An action of the first group needs no other one. -/
theorem head
    (hIn : schema.InGroup action group)
    (groups : List EntityUid) :
    schema.FirstGroup (group :: groups) action 0 := by
  refine ⟨⟨group, rfl, hIn⟩, ?_⟩
  intro i hLt
  omega

/- An action that is not in the first group is in a later one. -/
theorem tail
    (hOut : ¬ schema.InGroup action group)
    (hFirst : schema.FirstGroup groups action place) :
    schema.FirstGroup (group :: groups) action (place + 1) := by
  refine ⟨hFirst.here, ?_⟩
  intro i hLt early hEarly
  cases i with
  | zero =>
      rw [← Option.some.inj hEarly]
      exact hOut
  | succ i => exact hFirst.before i (by omega) early hEarly

/- There is only one first group. -/
theorem place_eq
    (hFirst : schema.FirstGroup groups action place)
    (hOther : schema.FirstGroup groups action other) :
    place = other := by
  obtain ⟨group, hGroup, hIn⟩ := hFirst.here
  obtain ⟨early, hEarly, hInEarly⟩ := hOther.here
  by_cases hLt : place < other
  · exact absurd hIn (hOther.before place hLt group hGroup)
  · by_cases hGt : other < place
    · exact absurd hInEarly (hFirst.before other hGt early hEarly)
    · omega

/- An action of some group has a first one. -/
theorem exists_of_mem
    (hIn : ∃ group ∈ groups, schema.InGroup action group) :
    ∃ place, schema.FirstGroup groups action place := by
  induction groups with
  | nil =>
      obtain ⟨group, hGroup, _⟩ := hIn
      cases hGroup
  | cons first rest ih =>
      by_cases hFirst : schema.InGroup action first
      · exact ⟨0, head hFirst rest⟩
      · obtain ⟨group, hGroup, hInGroup⟩ := hIn
        have hRest : group ∈ rest := by
          rcases List.mem_cons.mp hGroup with rfl | hLater
          · exact absurd hInGroup hFirst
          · exact hLater
        obtain ⟨place, hPlace⟩ := ih ⟨group, hRest, hInGroup⟩
        exact ⟨place + 1, tail hFirst hPlace⟩

end FirstGroup

/-
  An action comes before another one because of an earlier
  group, or within the first group of both by its name.
-/
def GroupOrder
    (schema : Schema)
    (groups : List EntityUid)
    (a b : ActionInfo) : Prop :=
  ∃ i j,
    schema.FirstGroup groups a.name i ∧
      schema.FirstGroup groups b.name j ∧
      (i < j ∨ i = j ∧ a.name < b.name)

/- Actions that come one after the other have different names. -/
theorem GroupOrder.name_ne
    {a b : ActionInfo}
    (hOrder : schema.GroupOrder groups a b) :
    a.name ≠ b.name := by
  obtain ⟨i, j, hFirst, hSecond, hPlaces | ⟨_, hNames⟩⟩ := hOrder
  · intro hName
    rw [hName] at hFirst
    rw [hFirst.place_eq hSecond] at hPlaces
    omega
  · exact EntityUid.ne_of_lt hNames

------------------------------------------------------------
-- Members Of Groups
------------------------------------------------------------

/- The actions of a schema that is built come in order. -/
theorem actionInfos_ascending_of_build
    {allowUnknown : Bool}
    {fragments : List Fragment}
    (hBuilt : build allowUnknown fragments = .ok schema) :
    schema.actionInfos.Pairwise fun a b => a.name < b.name := by
  obtain ⟨declared, _, hSchema⟩ := exists_declares_of_build hBuilt
  have hNames := (tabled_of_build hBuilt).actionNames
  unfold actionInfos Assoc.values
  rw [List.pairwise_map]
  apply List.Pairwise.imp_of_mem _
    (List.pairwise_map.mp hSchema.actions.ascending)
  intro first second hFirst hSecond hLt
  rw [hNames _ _ hFirst, hNames _ _ hSecond]
  exact hLt

/-
  The members of a group, followed by those of later groups
  that are not among them.
-/
theorem distinctBy_members_cons
    (hAscending :
      schema.actionInfos.Pairwise fun a b => a.name < b.name)
    (group : EntityUid)
    (groups : List EntityUid) :
    distinctBy ActionInfo.name
        ((group :: groups).flatMap schema.actionsIn) =
      schema.actionsIn group ++
        (distinctBy ActionInfo.name
            (groups.flatMap schema.actionsIn)).filter fun info =>
          info.name ∉ (schema.actionsIn group).map ActionInfo.name := by
  have hNodup :
      ((schema.actionsIn group).map ActionInfo.name).Nodup := by
    rw [List.Nodup, List.pairwise_map]
    exact (hAscending.filter _).imp EntityUid.ne_of_lt
  rw [List.flatMap_cons, distinctBy_append,
    distinctBy_of_nodup hNodup]

/- Where the actions come in order, so do the members of groups. -/
theorem pairwise_members
    (hAscending :
      schema.actionInfos.Pairwise fun a b => a.name < b.name)
    (groups : List EntityUid) :
    (distinctBy ActionInfo.name
        (groups.flatMap schema.actionsIn)).Pairwise
      (schema.GroupOrder groups) := by
  induction groups with
  | nil => exact List.Pairwise.nil
  | cons group rest ih =>
      -- What follows the members of the first group is in a later
      -- group only.
      have hLater :
          ∀ info ∈
            (distinctBy ActionInfo.name
              (rest.flatMap schema.actionsIn)).filter fun info =>
                info.name ∉
                  (schema.actionsIn group).map ActionInfo.name,
            ¬ schema.InGroup info.name group ∧
              ∃ place, schema.FirstGroup rest info.name place := by
        intro info hInfo
        obtain ⟨hRest, hNew⟩ := List.mem_filter.mp hInfo
        obtain ⟨other, hOther, hIn⟩ :=
          List.mem_flatMap.mp (mem_of_mem_distinctBy hRest)
        obtain ⟨hDeclared, hInGroup⟩ := mem_actionsIn_iff.mp hIn
        refine
          ⟨?_, FirstGroup.exists_of_mem ⟨other, hOther, hInGroup⟩⟩
        intro hFirst
        have hName :
            info.name ∈
              (schema.actionsIn group).map ActionInfo.name :=
          List.mem_map_of_mem
            (mem_actionsIn_iff.mpr ⟨hDeclared, hFirst⟩)
        simp [hName] at hNew
      rw [distinctBy_members_cons hAscending, List.pairwise_append]
      refine ⟨?_, ?_, ?_⟩
      · apply List.Pairwise.imp_of_mem _ (hAscending.filter _)
        intro a b hA hB hLt
        exact
          ⟨0, 0, .head (mem_actionsIn_iff.mp hA).2 rest,
            .head (mem_actionsIn_iff.mp hB).2 rest,
            Or.inr ⟨rfl, hLt⟩⟩
      · apply List.Pairwise.imp_of_mem _ (ih.filter _)
        rintro a b hA hB ⟨i, j, hFirst, hSecond, hLt⟩
        refine
          ⟨i + 1, j + 1, .tail (hLater a hA).1 hFirst,
            .tail (hLater b hB).1 hSecond, ?_⟩
        exact hLt.imp (by omega) (And.imp_left (by omega))
      · intro a hA b hB
        obtain ⟨hOut, place, hPlace⟩ := hLater b hB
        exact
          ⟨0, place + 1, .head (mem_actionsIn_iff.mp hA).2 rest,
            .tail hOut hPlace, Or.inl (by omega)⟩

end Schema

------------------------------------------------------------
-- Candidates
------------------------------------------------------------

/-
  The order of the candidates of a scope. A scope with one
  action has at most one candidate.
-/
def ActionConstraint.Precedes
    (schema : Schema) :
    ActionConstraint → ActionInfo → ActionInfo → Prop
  | .any, a, b => a.name < b.name
  | .eq _, _, _ => False
  | .mem uid, a, b => schema.GroupOrder [uid] a b
  | .memSet uids, a, b => schema.GroupOrder uids a b

/- Candidates in order have different names. -/
theorem ActionConstraint.Precedes.name_ne
    {schema : Schema}
    {constraint : ActionConstraint}
    {a b : ActionInfo}
    (hOrder : constraint.Precedes schema a b) :
    a.name ≠ b.name := by
  cases constraint with
  | any => exact EntityUid.ne_of_lt hOrder
  | eq uid => cases hOrder
  | mem uid => exact Schema.GroupOrder.name_ne hOrder
  | memSet uids => exact Schema.GroupOrder.name_ne hOrder

/- The candidates of a scope come in its order. -/
theorem Schema.pairwise_candidates
    {schema : Schema}
    (hAscending :
      schema.actionInfos.Pairwise fun a b => a.name < b.name)
    (constraint : ActionConstraint) :
    (schema.candidates constraint).Pairwise
      (constraint.Precedes schema) := by
  cases constraint with
  | any => exact hAscending
  | eq uid =>
      rw [candidates]
      cases schema.action? uid with
      | none => exact List.Pairwise.nil
      | some info => exact List.pairwise_singleton _ info
  | mem uid => exact pairwise_members hAscending [uid]
  | memSet uids => exact pairwise_members hAscending uids

/-
  The candidates of a scope are the declared actions that it
  admits, each of them once. They come in the order of the
  groups that are listed, and of their names within the
  first group they are in. The groups may hold each other,
  and may be undeclared.
-/
theorem candidates_admitted_in_order
    {allowUnknown : Bool}
    {fragments : List Fragment}
    {schema : Schema}
    (hBuilt : Schema.build allowUnknown fragments = .ok schema)
    (constraint : ActionConstraint) :
    (∀ info,
        info ∈ schema.candidates constraint ↔
          info ∈ schema.actionInfos ∧
            constraint.Admits schema info.name) ∧
      ((schema.candidates constraint).map ActionInfo.name).Nodup ∧
      (schema.candidates constraint).Pairwise
        (constraint.Precedes schema) := by
  have hOrder :=
    Schema.pairwise_candidates
      (Schema.actionInfos_ascending_of_build hBuilt) constraint
  refine ⟨?_, ?_, hOrder⟩
  · intro info
    exact Schema.mem_candidates_iff (Schema.tabled_of_build hBuilt)
  · rw [List.Nodup, List.pairwise_map]
    exact hOrder.imp ActionConstraint.Precedes.name_ne

/-
  A workshop in which copying counts as editing and editing
  as copying, and both as work, which is not declared.
-/
def workshopDocument : Json :=
  .obj [("entityTypes", .obj []), ("actions", .obj [
    ("copy", .obj [("memberOf", .arr [
      .obj [("id", .str "edit")]])]),
    ("edit", .obj [("memberOf", .arr [
      .obj [("id", .str "copy")], .obj [("id", .str "work")]])]),
    ("view", .obj [])])]

/- An action of the workshop. -/
def workshopAction
    (id : String)
    (groups : List String) : EntityUid × ActionInfo :=
  (⟨⟨"Action"⟩, id⟩,
    ⟨⟨⟨"Action"⟩, id⟩, [], [], .anything,
      groups.map fun group => ⟨⟨"Action"⟩, group⟩⟩)

/- The schema of the workshop. -/
def workshopSchema : Schema :=
  ⟨[],
    [workshopAction "copy" ["edit"],
      workshopAction "edit" ["copy", "work"],
      workshopAction "view" []],
    []⟩

/- To view, or to do some work. -/
def workshopScope : ActionConstraint :=
  .memSet [⟨⟨"Action"⟩, "view"⟩, ⟨⟨"Action"⟩, "work"⟩]

/-
  Copying is work by way of editing, so it is a candidate
  although the two hold each other and work is unknown.
-/
theorem workshop_candidates_in_order :
    ∃ fragment,
      Fragment.ofJson workshopDocument = .ok fragment ∧
      Schema.build true [fragment] = .ok workshopSchema ∧
      (workshopAction "copy" ["edit"]).2 ∈
        workshopSchema.candidates workshopScope ∧
      ((workshopSchema.candidates workshopScope).map
        ActionInfo.name).Nodup ∧
      (workshopSchema.candidates workshopScope).Pairwise
        (workshopScope.Precedes workshopSchema) := by
  have hFragment :
      ∃ fragment,
        Fragment.ofJson workshopDocument = .ok fragment ∧
        Schema.build true [fragment] = .ok workshopSchema :=
    ⟨_, rfl, rfl⟩
  obtain ⟨fragment, hRead, hBuilt⟩ := hFragment
  have hCopy :
      Relation.TransGen workshopSchema.MemberOf
        ⟨⟨"Action"⟩, "copy"⟩ ⟨⟨"Action"⟩, "work"⟩ :=
    .head (b := ⟨⟨"Action"⟩, "edit"⟩)
      ⟨_, rfl, List.mem_cons_self⟩
      (.single ⟨_, rfl, .tail _ (.head _)⟩)
  obtain ⟨hMembers, hNodup, hOrder⟩ :=
    candidates_admitted_in_order hBuilt workshopScope
  refine ⟨fragment, hRead, hBuilt, ?_, hNodup, hOrder⟩
  exact (hMembers _).mpr
    ⟨.head _, _, .tail _ (.head _), Or.inr hCopy⟩

end PolicyCheck
