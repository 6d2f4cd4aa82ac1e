import PolicyCheck.Proofs.Reachability
import PolicyCheck.Proofs.Tables
import PolicyCheck.Scope

/-
  What the hierarchies of a schema say, and which actions a
  scope lets through. Being a member goes through any number
  of declared types or actions; the candidates of a scope
  are exactly the declared actions that satisfy it.

  Main declarations:
    * `mem_distinctBy_iff`
    * `Schema.CanBelong`
    * `Schema.canBeDescendant_iff`
    * `Schema.MemberOf`
    * `Schema.InGroup`
    * `Schema.mem_actionsIn_iff`
    * `Schema.actionsIn_of_ungrouped`
    * `ActionConstraint.Admits`
    * `Schema.mem_candidates_iff`
    * `Schema.hasValidAppliesTo_of_closed`
    * `Schema.hasApplicableAction_of_valid`
-/

------------------------------------------------------------
-- Repeats
------------------------------------------------------------

namespace PolicyCheck

/- What is left after removing repeats was there before. -/
theorem mem_of_mem_distinctBy
    {α β : Type} [DecidableEq β]
    {key : α → β}
    {xs : List α}
    {x : α}
    (hMem : x ∈ distinctBy key xs) :
    x ∈ xs := by
  induction xs with
  | nil => simp [distinctBy] at hMem
  | cons y ys ih =>
      rw [distinctBy] at hMem
      rcases List.mem_cons.mp hMem with rfl | hRest
      · exact List.mem_cons_self
      · exact List.mem_cons_of_mem _ (ih (List.mem_filter.mp hRest).1)

/- Where keys tell elements apart no element is lost. -/
theorem mem_distinctBy_iff
    {α β : Type} [DecidableEq β]
    {key : α → β}
    {xs : List α}
    (hKey : ∀ a ∈ xs, ∀ b ∈ xs, key a = key b → a = b)
    {x : α} :
    x ∈ distinctBy key xs ↔ x ∈ xs := by
  refine ⟨mem_of_mem_distinctBy, ?_⟩
  intro hMem
  induction xs with
  | nil => simp at hMem
  | cons y ys ih =>
      rw [distinctBy]
      by_cases hSame : key x = key y
      · rw [hKey x hMem y List.mem_cons_self hSame]
        exact List.mem_cons_self
      · apply List.mem_cons_of_mem
        have hTail : x ∈ ys := by
          rcases List.mem_cons.mp hMem with rfl | hRest
          · exact absurd rfl hSame
          · exact hRest
        have hLeft : x ∈ distinctBy key ys := by
          apply ih _ hTail
          intro a hA b hB
          exact
            hKey a (List.mem_cons_of_mem _ hA) b
              (List.mem_cons_of_mem _ hB)
        exact List.mem_filter.mpr ⟨hLeft, by simpa using hSame⟩

------------------------------------------------------------
-- Types Of Members
------------------------------------------------------------

namespace Schema

/-
  Entities of the first type, which is declared, can be
  direct members of entities of the second.
-/
def CanBelong
    (schema : Schema)
    (type parent : EntityType) : Prop :=
  ∃ info,
    schema.entityType? type = some info ∧ parent ∈ info.memberOf

/- The search for a type follows the declared memberships. -/
theorem canBeDescendant_iff
    {schema : Schema}
    {source target : EntityType} :
    schema.canBeDescendant source target = true ↔
      Relation.TransGen schema.CanBelong source target := by
  have hEdges : schema.typeGraph.Edge = schema.CanBelong := by
    funext type parent
    exact propext Graph.edge_mapValues_iff
  rw [← hEdges]
  exact Graph.reaches_iff

------------------------------------------------------------
-- Groups Of Actions
------------------------------------------------------------

/- A declared action names another one as its group. -/
def MemberOf
    (schema : Schema)
    (action group : EntityUid) : Prop :=
  ∃ info,
    schema.action? action = some info ∧ group ∈ info.memberOf

/-
  An action is a group itself, or one of its members,
  directly or through other groups.
-/
def InGroup
    (schema : Schema)
    (action group : EntityUid) : Prop :=
  action = group ∨ Relation.TransGen schema.MemberOf action group

/- The actions in a group are its declared members. -/
theorem mem_actionsIn_iff
    {schema : Schema}
    {group : EntityUid}
    {info : ActionInfo} :
    info ∈ schema.actionsIn group ↔
      info ∈ schema.actionInfos ∧
        schema.InGroup info.name group := by
  have hEdges : schema.actionGraph.Edge = schema.MemberOf := by
    funext action other
    exact propext Graph.edge_mapValues_iff
  unfold actionsIn InGroup
  rw [List.mem_filter, ← hEdges, ← Graph.reaches_iff]
  simp

/- Where no action names a group, each is alone in its own. -/
theorem actionsIn_of_ungrouped
    {schema : Schema}
    (hUngrouped :
      ∀ uid info, schema.action? uid = some info →
        info.memberOf = [])
    (group : EntityUid) :
    schema.actionsIn group =
      schema.actionInfos.filter fun action =>
        action.name = group := by
  unfold actionsIn
  apply List.filter_congr
  intro action _
  have hApart :
      schema.actionGraph.reaches action.name group = false := by
    rw [Bool.eq_false_iff]
    intro hReaches
    obtain ⟨next, hEdge, _⟩ :=
      Relation.TransGen.head'_iff.mp (Graph.reaches_iff.mp hReaches)
    obtain ⟨info, hInfo, hNext⟩ := Graph.edge_mapValues_iff.mp hEdge
    rw [hUngrouped _ info hInfo] at hNext
    cases hNext
  rw [hApart, Bool.or_false]

end Schema

------------------------------------------------------------
-- Candidates
------------------------------------------------------------

/- What a scope says about the action of a request. -/
def ActionConstraint.Admits
    (schema : Schema)
    (action : EntityUid) : ActionConstraint → Prop
  | .any => True
  | .eq uid => action = uid
  | .mem uid => schema.InGroup action uid
  | .memSet uids => ∃ uid ∈ uids, schema.InGroup action uid

namespace Schema

/- The candidates of groups are the members of one of them. -/
theorem mem_distinctBy_flatMap_actionsIn_iff
    {schema : Schema}
    (hTabled : schema.Tabled)
    (groups : List EntityUid)
    {info : ActionInfo} :
    info ∈ distinctBy ActionInfo.name
        (groups.flatMap schema.actionsIn) ↔
      info ∈ schema.actionInfos ∧
        ∃ group ∈ groups, schema.InGroup info.name group := by
  have hDeclared :
      ∀ a ∈ groups.flatMap schema.actionsIn,
        a ∈ schema.actionInfos := by
    intro a hA
    rcases List.mem_flatMap.mp hA with ⟨group, _, hIn⟩
    exact (mem_actionsIn_iff.mp hIn).1
  rw [mem_distinctBy_iff]
  · constructor
    · intro hMem
      rcases List.mem_flatMap.mp hMem with ⟨group, hGroup, hIn⟩
      rcases mem_actionsIn_iff.mp hIn with ⟨hInfo, hInGroup⟩
      exact ⟨hInfo, group, hGroup, hInGroup⟩
    · rintro ⟨hInfo, group, hGroup, hInGroup⟩
      exact
        List.mem_flatMap.mpr
          ⟨group, hGroup, mem_actionsIn_iff.mpr ⟨hInfo, hInGroup⟩⟩
  · intro a hA b hB hName
    exact
      actionInfo_eq_of_name_eq hTabled (hDeclared a hA)
        (hDeclared b hB) hName

/- The candidates are the declared actions that the scope admits. -/
theorem mem_candidates_iff
    {schema : Schema}
    (hTabled : schema.Tabled)
    {constraint : ActionConstraint}
    {info : ActionInfo} :
    info ∈ schema.candidates constraint ↔
      info ∈ schema.actionInfos ∧
        constraint.Admits schema info.name := by
  cases constraint with
  | any => simp [candidates, ActionConstraint.Admits]
  | eq uid =>
      rw [candidates, Option.mem_toList]
      exact action?_eq_some_iff hTabled
  | mem uid =>
      simpa [candidates, ActionConstraint.uids,
        ActionConstraint.Admits] using
        mem_distinctBy_flatMap_actionsIn_iff hTabled [uid]
  | memSet uids =>
      exact mem_distinctBy_flatMap_actionsIn_iff hTabled uids

------------------------------------------------------------
-- Actions That Apply
------------------------------------------------------------

/- A declared type is not malformed. -/
theorem isMalformed_eq_false
    {schema : Schema}
    {type : EntityType}
    (hKnown : schema.knowsType type = true) :
    schema.isMalformed type = false := by
  simp [isMalformed, hKnown]

/-
  Where all types are declared an action applies as soon as
  it has principals and resources.
-/
theorem hasValidAppliesTo_of_closed
    {schema : Schema}
    (hClosed : schema.Closed)
    {info : ActionInfo}
    (hInfo : info ∈ schema.actionInfos)
    {principal resource : EntityType}
    (hPrincipal : principal ∈ info.principals)
    (hResource : resource ∈ info.resources) :
    schema.hasValidAppliesTo info = true := by
  have hPrincipals : info.principals ≠ [] :=
    List.ne_nil_of_mem hPrincipal
  have hResources : info.resources ≠ [] :=
    List.ne_nil_of_mem hResource
  have hWellFormed :
      info.principals.all schema.isMalformed = false := by
    rw [List.all_eq_false]
    refine ⟨principal, hPrincipal, ?_⟩
    rw [isMalformed_eq_false
      (hClosed.principals info hInfo principal hPrincipal)]
    exact Bool.false_ne_true
  simp [hasValidAppliesTo, hPrincipals, hResources, hWellFormed]

/- A schema with an action that applies has one that could. -/
theorem hasApplicableAction_of_valid
    {schema : Schema}
    {info : ActionInfo}
    (hInfo : info ∈ schema.actionInfos)
    (hValid : schema.hasValidAppliesTo info = true) :
    schema.hasApplicableAction = true := by
  rw [hasApplicableAction, List.any_eq_true]
  unfold hasValidAppliesTo at hValid
  exact ⟨info, hInfo, (Bool.and_eq_true_iff.mp hValid).1⟩

end Schema

end PolicyCheck
