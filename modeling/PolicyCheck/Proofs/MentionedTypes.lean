import PolicyCheck.Proofs.Leniency
import PolicyCheck.Proofs.Mentions
import PolicyCheck.Proofs.ScopeBlame

/-
  The entity types that the conditions of a policy mention,
  in entity literals and in type tests. Those that are
  neither declared nor types of actions are reported, each
  once, in the order in which the walk over the conditions
  comes to them first. No other check of a condition reports
  a type in this way.

  Main declarations:
    * `Expr.Mentions`
    * `Policy.mentions`
    * `Schema.ReportsMentions`
    * `Schema.reportsMentions_unknownConditionTypes`
    * `Validator.filter_policyIssues_unrecognizedType`
    * `subexpressions_walked_recursively`
-/

namespace PolicyCheck

------------------------------------------------------------
-- Mentions
------------------------------------------------------------

/- An expression mentions an entity type itself. -/
inductive Expr.Mentions : Expr → EntityType → Prop where
  | literal {uid} : Mentions (.lit (.entity uid)) uid.type
  | is {arg type} : Mentions (.is arg type) type
  | isIn {arg type group} : Mentions (.isIn arg type group) type

/- The walk looks for the type that an expression mentions. -/
theorem Expr.mentionedType?_eq_some_iff
    {e : Expr}
    {type : EntityType} :
    e.mentionedType? = some type ↔ e.Mentions type := by
  constructor
  · intro hType
    unfold mentionedType? at hType
    split at hType
    · rw [← Option.some.inj hType]
      exact .literal
    · rw [← Option.some.inj hType]
      exact .is
    · rw [← Option.some.inj hType]
      exact .isIn
    · cases hType
  · intro hMentions
    cases hMentions <;> rfl

/- The parts of a record are listed by the names of its fields. -/
theorem Expr.children_record
    {fields : List (String × Expr)}
    (hAscending : Assoc.Ascending fields) :
    (Expr.record fields).children =
      (ascending (Assoc.keys fields)).filterMap
        (Assoc.find? fields) := by
  rw [ascending_of_pairwise hAscending, Assoc.keys,
    List.filterMap_map]
  have hFound :
      ∀ field ∈ fields,
        (Assoc.find? fields ∘ Prod.fst) field = some field.2 := by
    intro field hMem
    exact Assoc.find?_of_mem hAscending.nodup hMem
  rw [List.filterMap_congr hFound, List.filterMap_eq_map']
  rfl

/-
  All mentions of types in the conditions of a policy,
  condition by condition, in the order of the recursive walk.
-/
def Policy.mentions
    (policy : Policy) : List EntityType :=
  policy.conditions.flatMap fun clause =>
    clause.body.preorder.filterMap Expr.mentionedType?

/- A type is mentioned if something in a condition mentions it. -/
theorem Policy.mem_mentions_iff
    {policy : Policy}
    {type : EntityType} :
    type ∈ policy.mentions ↔
      ∃ clause ∈ policy.conditions, ∃ e : Expr,
        e.Occurs clause.body ∧ e.Mentions type := by
  simp only [mentions, List.mem_flatMap, List.mem_filterMap,
    ← Expr.subexpressions_eq_preorder, Expr.mem_subexpressions_iff,
    Expr.mentionedType?_eq_some_iff]

/-
  Types are those that a policy mentions and that are not
  recognized, each once, in the order of first mentions.
-/
structure Schema.ReportsMentions
    (schema : Schema)
    (policy : Policy)
    (types : List EntityType) : Prop where
  mem_iff :
    ∀ type,
      type ∈ types ↔
        ¬ schema.Recognizes type ∧
          ∃ clause ∈ policy.conditions, ∃ e : Expr,
            e.Occurs clause.body ∧ e.Mentions type
  nodup : types.Nodup
  order :
    types.Pairwise fun first second =>
      policy.mentions.idxOf first < policy.mentions.idxOf second

/- Repeats can be removed before a filter or after it. -/
theorem distinct_filter
    {α : Type} [DecidableEq α]
    (p : α → Bool)
    (xs : List α) :
    distinct (xs.filter p) = (distinct xs).filter p := by
  induction xs with
  | nil => rfl
  | cons x xs ih =>
      cases hKept : p x with
      | true =>
          rw [List.filter_cons_of_pos hKept, distinct, distinct, ih,
            List.filter_cons_of_pos hKept, List.filter_filter,
            List.filter_filter]
          simp only [Bool.and_comm]
      | false =>
          rw [List.filter_cons_of_neg (by simp [hKept]), distinct, ih,
            List.filter_cons_of_neg (by simp [hKept]),
            List.filter_filter]
          -- The head is dropped by the filter in any case.
          apply List.filter_congr
          intro y _
          by_cases hSame : y = x
          · simp [hSame, hKept]
          · simp [hSame]

namespace Schema

variable (schema : Schema)

/- The types that are looked for, as first mentions. -/
theorem unknownConditionTypes_eq
    (policy : Policy) :
    schema.unknownConditionTypes policy =
      (distinct policy.mentions).filter fun type =>
        !schema.knowsTypeOrAction type := by
  rw [← distinct_filter]
  simp only [unknownConditionTypes, Policy.mentions,
    Expr.subexpressions_eq_preorder]

/- They are reported once, in the order of first mentions. -/
theorem reportsMentions_unknownConditionTypes
    (policy : Policy) :
    schema.ReportsMentions policy
      (schema.unknownConditionTypes policy) := by
  have hFirst := firstOccurrences_distinct policy.mentions
  rw [unknownConditionTypes_eq]
  refine ⟨?_, hFirst.nodup.filter _, hFirst.order.filter _⟩
  intro type
  rw [List.mem_filter, hFirst.mem_iff, Policy.mem_mentions_iff,
    Bool.not_eq_true', ← Bool.not_eq_true, knowsTypeOrAction_iff,
    and_comm]

/-
  What the conditions of a policy add to the issues with its
  types comes after those of its scope.
-/
theorem typeIssues_eq
    (policy : Policy) :
    schema.typeIssues policy =
      schema.typeIssues { policy with conditions := [] } ++
        (schema.unknownConditionTypes policy).map
          schema.unrecognizedType := by
  simp [typeIssues, unknownConditionTypes, distinct]

end Schema

------------------------------------------------------------
-- Reports
------------------------------------------------------------

/- The issue is that an entity type is not recognized. -/
def Issue.isUnrecognizedType : Issue → Bool
  | .unrecognizedEntityType _ _ => true
  | _ => false

/- The check of types never says that a type is unrecognized. -/
theorem Checker.emits_not_unrecognizedType
    (checker : Checker) :
    checker.Emits fun issue => issue.isUnrecognizedType = false where
  literal := by
    intro value issue hIssue
    rcases exists_of_mem_checkLiteral hIssue with ⟨uid, rfl⟩
    rfl
  call := by
    intro function args types issue hIssue
    have hCall := checkCall_onCall function args types issue hIssue
    cases issue with
    | unrecognizedEntityType type suggestion => cases hCall
    | _ => rfl
  unexpected := fun _ _ _ => rfl
  operand := fun _ _ => rfl
  incompatible := fun _ _ _ => rfl
  access := by
    intro base attr ty issue hIssue
    have hAccess :=
      checker.accessAttr_onAccess base attr ty issue hIssue
    cases issue with
    | unrecognizedEntityType type suggestion => cases hAccess
    | _ => rfl
  limit := rfl
  level := by
    intro level issue hIssue
    rcases exists_of_mem_levelIssues hIssue with ⟨allowed, rfl⟩
    rfl

/- Of the issues of a scope these are the ones with its types. -/
theorem Schema.filter_scopeIssues_unrecognizedType
    (schema : Schema)
    (policy : Policy) :
    (schema.scopeIssues policy).filter Issue.isUnrecognizedType =
      schema.typeIssues policy := by
  have hTypes :
      (schema.typeIssues policy).filter Issue.isUnrecognizedType =
        schema.typeIssues policy := by
    rw [List.filter_eq_self]
    intro issue hIssue
    rcases List.mem_map.mp hIssue with ⟨type, _, rfl⟩
    rfl
  rcases schema.exists_actionReport policy.action with
    ⟨unknown, reason?, hReport⟩
  rw [scopeIssues, hReport.issues]
  simp [List.filter_append, hTypes, List.filter_map,
    Function.comp_def, unrecognizedAction, Issue.isUnrecognizedType]

/- All types that are reported as unrecognized are in these. -/
theorem Validator.filter_policyIssues_unrecognizedType
    (validator : Validator)
    (guard : Guard)
    (policy : Policy) :
    (validator.policyIssues guard policy).filter
        Issue.isUnrecognizedType =
      if validator.schema.hasApplicableAction then
        validator.schema.typeIssues policy
      else
        [] := by
  have hConstant :
      (policy.impossibleConditions.map Issue.impossible).filter
        Issue.isUnrecognizedType = [] := by
    simp [List.filter_map, Function.comp_def,
      Issue.isUnrecognizedType]
  have hConditions :
      ((validator.checker guard policy).checkConditions
        policy.conditions).filter Issue.isUnrecognizedType = [] := by
    rw [List.filter_eq_nil_iff]
    intro issue hIssue
    rw [(Checker.emits_not_unrecognizedType _).checkConditions _
      issue hIssue]
    exact Bool.false_ne_true
  unfold policyIssues
  split
  · rw [List.filter_append, List.filter_append, hConstant,
      hConditions, Schema.filter_scopeIssues_unrecognizedType,
      List.append_nil, List.append_nil]
  · rfl

------------------------------------------------------------
-- The Walk And Its Reports
------------------------------------------------------------

/-
  The walk with a stack is the recursive walk, from every
  stack on: an expression, then its parts from the last one
  to the first one, the fields of a record being listed by
  their names. Every place of an expression is visited once.
  So the conditions of a policy add a report for every type
  that they mention somewhere and that is not recognized, in
  the order in which this walk finds them.
-/
theorem subexpressions_walked_recursively :
    (∀ stack : List Expr,
      Expr.visit stack = stack.flatMap Expr.preorder) ∧
    (∀ e : Expr,
      e.subexpressions = e.preorder ∧
        e.subexpressions =
          e :: e.children.reverse.flatMap Expr.subexpressions ∧
        ∃ paths : List Expr.Path,
          paths.Nodup ∧
            Expr.Enumerates e.at? paths e.subexpressions) ∧
    (∀ fields : List (String × Expr), Assoc.Ascending fields →
      (Expr.record fields).children =
        (ascending (Assoc.keys fields)).filterMap
          (Assoc.find? fields)) ∧
    (∀ (schema : Schema) (policy : Policy), ∃ types,
      schema.ReportsMentions policy types ∧
        schema.typeIssues policy =
          schema.typeIssues { policy with conditions := [] } ++
            types.map schema.unrecognizedType) ∧
    ∀ (validator : Validator) (guard : Guard) (policy : Policy),
      (validator.policyIssues guard policy).filter
          Issue.isUnrecognizedType =
        if validator.schema.hasApplicableAction then
          validator.schema.typeIssues policy
        else
          [] := by
  refine ⟨Expr.visit_eq_flatMap_preorder, ?_, ?_, ?_,
    Validator.filter_policyIssues_unrecognizedType⟩
  · intro e
    rcases e.exists_enumerates with ⟨paths, hPaths⟩
    exact
      ⟨e.subexpressions_eq_preorder, e.subexpressions_eq, paths,
        hPaths.nodup, hPaths⟩
  · intro fields hAscending
    exact Expr.children_record hAscending
  · intro schema policy
    exact
      ⟨schema.unknownConditionTypes policy,
        schema.reportsMentions_unknownConditionTypes policy,
        schema.typeIssues_eq policy⟩

/- The fields of a record literal that names a guest and a crew. -/
def guestFields : List (String × Expr) :=
  [("crew", .lit (.entity ⟨⟨"Crew"⟩, "c"⟩)),
    ("guest", .lit (.entity ⟨⟨"Guest"⟩, "g"⟩))]

/-
  Guests are mentioned in both conditions, folders in the
  right part of the first one, and the crew in a record.
-/
def guestPolicy : Policy :=
  ⟨⟨"guests"⟩, .permit, .is ⟨"User"⟩, .eq ⟨⟨"Action"⟩, "view"⟩,
    .is ⟨"Doc"⟩,
    [⟨.when,
        .and (.is (.var .principal) ⟨"Guest"⟩)
          (.isIn (.var .resource) ⟨"Doc"⟩
            (.lit (.entity ⟨⟨"Folder"⟩, "f"⟩)))⟩,
      ⟨.unless,
        .binary .eq (.var .context) (.record guestFields)⟩]⟩

/-
  The right part of a condition is walked through before the
  left one, so the folders are reported before the guests,
  who are not reported again for the record.
-/
theorem guests_reported_in_order :
    Assoc.Ascending guestFields ∧
      (Expr.record guestFields).children =
        (ascending (Assoc.keys guestFields)).filterMap
          (Assoc.find? guestFields) ∧
      ((Validator.mk deskSchema default).policyIssues Guard.never
          guestPolicy).filter Issue.isUnrecognizedType =
        [deskSchema.unrecognizedType ⟨"Folder"⟩,
          deskSchema.unrecognizedType ⟨"Guest"⟩,
          deskSchema.unrecognizedType ⟨"Crew"⟩] := by
  have hNames : Assoc.Ascending guestFields := by
    unfold Assoc.Ascending
    decide
  have hIssues :
      deskSchema.typeIssues guestPolicy =
        [deskSchema.unrecognizedType ⟨"Folder"⟩,
          deskSchema.unrecognizedType ⟨"Guest"⟩,
          deskSchema.unrecognizedType ⟨"Crew"⟩] := by
    decide +kernel
  rcases subexpressions_walked_recursively with
    ⟨_, _, hFields, _, hReports⟩
  refine ⟨hNames, hFields guestFields hNames, ?_⟩
  rw [hReports, hIssues]
  rfl

end PolicyCheck
