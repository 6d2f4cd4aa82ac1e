import PolicyCheck.Proofs.Leniency
import PolicyCheck.Proofs.Narrowing

/-
  A scope without a demand on the action, and the scope that
  lists all actions. The same actions apply in both, so both
  are called impossible alike, as long as some action does
  apply. Where actions name principals and resources, but
  with malformed types throughout, only the list is called
  impossible; that takes undeclared types to be allowed.

  Main declarations:
    * `Schema.onlyMalformed`
    * `Schema.mem_applicable_listed_iff`
    * `Schema.onlyMalformed_eq_false_of_closed`
    * `Validator.callsScopeImpossible_listed_iff`
    * `all_actions_judged_alike`
    * `zoo_listing_differs`
-/

namespace PolicyCheck

namespace Schema

variable {schema : Schema} {listed : List EntityUid}

------------------------------------------------------------
-- Actions That Apply
------------------------------------------------------------

/-
  Some action has principals and resources, but for none of
  those actions is any of the types well formed.
-/
def onlyMalformed
    (schema : Schema) : Bool :=
  schema.hasApplicableAction && (schema.applicable .any).isEmpty

/- A list of actions has all that are declared, and no others. -/
def ListsActions
    (schema : Schema)
    (listed : List EntityUid) : Prop :=
  ∀ uid, uid ∈ listed ↔ schema.knowsAction uid = true

/- The actions that apply are the same if all are listed. -/
theorem mem_applicable_listed_iff
    (hTabled : schema.Tabled)
    (hListed : schema.ListsActions listed)
    {info : ActionInfo} :
    info ∈ schema.applicable (.memSet listed) ↔
      info ∈ schema.applicable .any := by
  unfold applicable
  rw [List.mem_filter, List.mem_filter, mem_candidates_iff hTabled,
    mem_candidates_iff hTabled]
  constructor
  · rintro ⟨⟨hInfo, _⟩, hValid⟩
    exact ⟨⟨hInfo, trivial⟩, hValid⟩
  · rintro ⟨⟨hInfo, _⟩, hValid⟩
    have hFound : schema.action? info.name = some info :=
      (action?_eq_some_iff hTabled).mpr ⟨hInfo, rfl⟩
    have hKnown : schema.knowsAction info.name = true := by
      rw [knowsAction, hFound]
      rfl
    exact
      ⟨⟨hInfo, info.name, (hListed info.name).mpr hKnown,
        Or.inl rfl⟩, hValid⟩

/- With an action that applies not all types are malformed. -/
theorem onlyMalformed_eq_false_of_closed
    (hClosed : schema.Closed) :
    schema.onlyMalformed = false := by
  unfold onlyMalformed
  cases hSome : schema.hasApplicableAction with
  | false => rfl
  | true =>
      rw [hasApplicableAction, List.any_eq_true] at hSome
      obtain ⟨info, hInfo, hTypes⟩ := hSome
      have hValid : schema.hasValidAppliesTo info = true := by
        rw [hasValidAppliesTo_iff_of_closed hClosed hInfo]
        simpa using hTypes
      have hMem : info ∈ schema.applicable .any :=
        List.mem_filter.mpr ⟨hInfo, hValid⟩
      simpa using List.ne_nil_of_mem hMem

end Schema

------------------------------------------------------------
-- Impossible Scopes
------------------------------------------------------------

namespace Validator

variable
  {validator : Validator}
  {guard : Guard}
  {policy : Policy}
  {listed : List EntityUid}

/-
  Without a demand on the action a scope is not impossible
  because of actions, not even if all types are malformed.
-/
theorem not_callsScopeImpossible_of_onlyMalformed
    (hMalformed : validator.schema.onlyMalformed = true)
    (hAny : policy.action = .any) :
    ¬ validator.CallsScopeImpossible guard policy := by
  obtain ⟨hSome, hNone⟩ := Bool.and_eq_true_iff.mp hMalformed
  rw [callsScopeImpossible_iff, Schema.applicationIssue?_ne_none_iff,
    hAny, hSome]
  rintro (hFalse | ⟨issue, hIssue, _⟩ | ⟨hApplicable, _⟩)
  · cases hFalse
  · cases hIssue
  · exact hApplicable (List.isEmpty_iff.mp hNone)

/- A list of actions none of which applies is impossible. -/
theorem callsScopeImpossible_of_onlyMalformed
    (hTabled : validator.schema.Tabled)
    (hListed : validator.schema.ListsActions listed)
    (hMalformed : validator.schema.onlyMalformed = true)
    (hAction : policy.action = .memSet listed) :
    validator.CallsScopeImpossible guard policy := by
  obtain ⟨_, hNone⟩ := Bool.and_eq_true_iff.mp hMalformed
  have hNoneListed :
      (validator.schema.applicable (.memSet listed)).isEmpty =
        true := by
    rw [← hNone]
    exact isEmpty_eq_of_mem_iff fun _ =>
      Schema.mem_applicable_listed_iff hTabled hListed
  rw [callsScopeImpossible_iff, hAction]
  refine Or.inr (Or.inl ?_)
  change ∃ issue ∈ validator.schema.groupIssues (.memSet listed), _
  unfold Schema.groupIssues
  rw [hNoneListed, if_pos rfl]
  -- An empty list is impossible too, for another reason.
  split
  · exact ⟨_, List.mem_singleton_self _, rfl⟩
  · refine ⟨.impossible .noListedActionApplies, ?_, rfl⟩
    exact List.mem_append_right _ (List.mem_singleton_self _)

/-
  Unless all types are malformed a policy is impossible with
  all actions listed exactly if it is without a demand.
-/
theorem callsScopeImpossible_listed_iff
    (hTabled : validator.schema.Tabled)
    (hListed : validator.schema.ListsActions listed)
    (hFormed : validator.schema.onlyMalformed = false)
    (hAny : policy.action = .any)
    {listedGuard : Guard} :
    validator.CallsScopeImpossible guard policy ↔
      validator.CallsScopeImpossible listedGuard
        { policy with action := .memSet listed } := by
  cases hSome : validator.schema.hasApplicableAction with
  | false =>
      refine iff_of_true ?_ ?_
      · exact callsScopeImpossible_iff.mpr (Or.inl hSome)
      · exact callsScopeImpossible_iff.mpr (Or.inl hSome)
  | true =>
      have hApplicable : validator.schema.applicable .any ≠ [] := by
        simpa [Schema.onlyMalformed, hSome] using hFormed
      obtain ⟨info, hInfo⟩ := List.exists_mem_of_ne_nil _ hApplicable
      have hSame :
          ∀ info, info ∈ validator.schema.applicable (.memSet listed) ↔
            info ∈ validator.schema.applicable .any :=
        fun _ => Schema.mem_applicable_listed_iff hTabled hListed
      rw [callsScopeImpossible_iff_of_applicable hTabled,
        callsScopeImpossible_iff_of_applicable hTabled, hAny]
      · simp only [hSame]
      · exact List.ne_nil_of_mem ((hSame info).mpr hInfo)
      · rw [hAny]
        exact hApplicable

end Validator

/-
  A policy without a demand on the action is called
  impossible because of its scope exactly if the same policy
  with all declared actions listed is, unless all types that
  actions apply to are malformed. Then only the list is
  called impossible, whatever else the scope says. Without
  undeclared types that does not happen.
-/
theorem all_actions_judged_alike
    {allowUnknown : Bool}
    {fragments : List Fragment}
    {schema : Schema}
    (hBuilt : Schema.build allowUnknown fragments = .ok schema)
    (options : Options)
    (guard listedGuard : Guard)
    (policy : Policy)
    (hAny : policy.action = .any)
    (listed : List EntityUid)
    (hListed :
      ∀ uid, uid ∈ listed ↔ schema.knowsAction uid = true) :
    (schema.onlyMalformed = false →
      ((Validator.mk schema options).CallsScopeImpossible guard
          policy ↔
        (Validator.mk schema options).CallsScopeImpossible
          listedGuard { policy with action := .memSet listed })) ∧
      (schema.onlyMalformed = true →
        ¬ (Validator.mk schema options).CallsScopeImpossible guard
            policy ∧
          (Validator.mk schema options).CallsScopeImpossible
            listedGuard { policy with action := .memSet listed }) ∧
      (allowUnknown = false → schema.onlyMalformed = false) := by
  have hTabled : (Validator.mk schema options).schema.Tabled :=
    Schema.tabled_of_build hBuilt
  have hAll :
      (Validator.mk schema options).schema.ListsActions listed :=
    hListed
  refine ⟨?_, ?_, ?_⟩
  · intro hFormed
    exact
      Validator.callsScopeImpossible_listed_iff hTabled hAll hFormed
        hAny
  · intro hMalformed
    constructor
    · exact
        Validator.not_callsScopeImpossible_of_onlyMalformed
          hMalformed hAny
    · exact
        Validator.callsScopeImpossible_of_onlyMalformed hTabled hAll
          hMalformed rfl
  · rintro rfl
    exact
      Schema.onlyMalformed_eq_false_of_closed
        (Schema.closed_of_build hBuilt)

/- Whoever is in a document may do everything with documents. -/
def officeOwners : Policy :=
  ⟨⟨"owners"⟩, .permit, .mem ⟨⟨"Doc"⟩, "plan"⟩, .any,
    .is ⟨"Doc"⟩, []⟩

/- Nobody is in a document, with all actions of the office listed. -/
theorem officeOwners_judged_alike :
    Schema.build false [officeFragment] = .ok officeSchema ∧
      ((Validator.mk officeSchema default).CallsScopeImpossible
          Guard.never officeOwners ↔
        (Validator.mk officeSchema default).CallsScopeImpossible
          Guard.never
          { officeOwners with
            action := .memSet [⟨⟨"Action"⟩, "view"⟩,
              ⟨⟨"Action"⟩, "read"⟩] }) := by
  have hBuilt :
      Schema.build false [officeFragment] = .ok officeSchema := by
    rfl
  have hJudged :=
    all_actions_judged_alike hBuilt default Guard.never Guard.never
      officeOwners rfl [⟨⟨"Action"⟩, "view"⟩, ⟨⟨"Action"⟩, "read"⟩]
      (by
        intro uid
        rw [Schema.knowsAction_iff]
        simp [officeSchema, Assoc.keys, or_comm])
  exact ⟨hBuilt, hJudged.1 (hJudged.2.2 rfl)⟩

/- A zoo whose keepers and animals have no name of their own. -/
def zooDocument : Json :=
  .obj [("Zoo", .obj [
    ("entityTypes", .obj []),
    ("actions", .obj [("feed", .obj [("appliesTo", .obj [
      ("principalTypes", .arr [.str ""]),
      ("resourceTypes", .arr [.str ""])])])])])]

/- The schema of the zoo. -/
def zooSchema : Schema :=
  ⟨[],
    [(⟨⟨"Zoo::Action"⟩, "feed"⟩,
      ⟨⟨⟨"Zoo::Action"⟩, "feed"⟩, [⟨"Zoo::"⟩], [⟨"Zoo::"⟩],
        .anything, []⟩)],
    []⟩

/- A policy of the zoo on some actions. -/
def zooPolicy
    (action : ActionConstraint) : Policy :=
  ⟨⟨"zoo"⟩, .permit, .any, action, .any, []⟩

/-
  Feeding is the only action of the zoo. A policy on all of
  them is in order, a policy on feeding is impossible.
-/
theorem zoo_listing_differs :
    ∃ fragment,
      Fragment.ofJson zooDocument = .ok fragment ∧
      Schema.build true [fragment] = .ok zooSchema ∧
      (∀ uid, uid ∈ [(⟨⟨"Zoo::Action"⟩, "feed"⟩ : EntityUid)] ↔
        zooSchema.knowsAction uid = true) ∧
      ¬ (Validator.mk zooSchema default).CallsScopeImpossible
        Guard.never (zooPolicy .any) ∧
      (Validator.mk zooSchema default).CallsScopeImpossible
        Guard.never
        (zooPolicy (.memSet [⟨⟨"Zoo::Action"⟩, "feed"⟩])) := by
  have hFragment :
      ∃ fragment,
        Fragment.ofJson zooDocument = .ok fragment ∧
        Schema.build true [fragment] = .ok zooSchema :=
    ⟨_, rfl, rfl⟩
  obtain ⟨fragment, hRead, hBuilt⟩ := hFragment
  have hListed :
      zooSchema.ListsActions [⟨⟨"Zoo::Action"⟩, "feed"⟩] := by
    intro uid
    rw [Schema.knowsAction_iff]
    rfl
  refine ⟨fragment, hRead, hBuilt, hListed, ?_, ?_⟩
  · exact
      Validator.not_callsScopeImpossible_of_onlyMalformed rfl rfl
  · exact
      Validator.callsScopeImpossible_of_onlyMalformed
        (Schema.tabled_of_build hBuilt) hListed rfl rfl

end PolicyCheck
