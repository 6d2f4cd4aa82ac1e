import PolicyCheck.Proofs.Agreement
import PolicyCheck.Proofs.NestedAccesses
import PolicyCheck.Proofs.ScopeBlame

/-
  What the limit on attribute accesses counts. It is reported
  to be exceeded once for every access that as many accesses
  stand around as are allowed, and nothing else that is said
  of a policy depends on it.

  Main declarations:
    * `Checker.levelIssues_eq`
    * `Checker.counted_checkConditions`
    * `Checker.withoutLevels_check`
    * `Checker.filter_not_checkConditions`
    * `Validator.withLimit`
    * `level_limit_counts_nested_accesses`
-/

namespace PolicyCheck

------------------------------------------------------------
-- Levels
------------------------------------------------------------

namespace Checker

variable {checker : Checker}

/- Below the largest number a limit is exceeded one above it. -/
theorem levelIssues_eq
    (hLimit : checker.maxLevel ≠ 0)
    {level : Nat}
    (hLevel : level < UInt32.size - 1) :
    checker.levelIssues level =
      if level = checker.maxLevel.toNat + 1 then
        [.levelExceeded checker.maxLevel.toNat
          (checker.maxLevel.toNat + 1)]
      else
        [] := by
  have hExceeding :
      level = exceedingLevel checker.maxLevel ↔
        level = checker.maxLevel.toNat + 1 := by
    unfold exceedingLevel
    omega
  unfold levelIssues
  simp only [hLimit, ne_eq, not_false_eq_true, true_and, hExceeding]
  split
  · rename_i hSame
    rw [hSame]
  · rfl

/- All issues about levels are of that kind. -/
theorem filter_accessIssues
    (level : Nat)
    (e : Expr) :
    (checker.accessIssues level e).filter Issue.isLevelExceeded =
      checker.accessIssues level e := by
  unfold accessIssues levelIssues
  split
  · split <;> simp [Issue.isLevelExceeded]
  · rfl

/- A checker without a limit on attribute accesses. -/
def unlimited
    (checker : Checker) : Checker :=
  ⟨checker.schema, checker.env, 0, checker.guard⟩

@[simp]
theorem levelIssues_unlimited
    (level : Nat) :
    checker.unlimited.levelIssues level = [] := by
  simp [levelIssues, unlimited]

/- No issue with an expression itself is about levels. -/
theorem finds_not_level
    (checker : Checker) :
    checker.Finds fun issue => issue.isLevelExceeded = false := by
  apply finds_of_plain
  intro issue hPlain
  exact (Issue.isPlain_iff.mp hPlain).2.1

/- Verdicts do not depend on the limit. -/
theorem verdict_unlimited
    (e : Expr)
    (types : List Ty) :
    checker.unlimited.verdict e types = checker.verdict e types := by
  cases e <;> rfl

------------------------------------------------------------
-- Issues About Levels
------------------------------------------------------------

/- The issues about levels are those of accesses. -/
theorem filter_check
    {position : Position}
    (hGuard : checker.guard position = false)
    (level : Nat)
    (e : Expr) :
    (checker.check position level e).2.filter
        Issue.isLevelExceeded =
      (checker.accessIssues level e ++
        ((checker.checkParts position (e.levelBelow level) 0
          e.children).map Prod.snd).flatten).filter
        Issue.isLevelExceeded := by
  rw [check_eq hGuard, assemble, List.filter_append,
    List.filter_append]
  congr 1
  rcases checker.finds_not_level.verdict e
        ((checker.checkParts position (e.levelBelow level) 0
          e.children).map Prod.fst) with
    ⟨hFirst, hLast⟩
  exact Verdict.filter_around_of_none hFirst hLast

section Counting

variable {policy : Policy}

/-
  What is exceeded below a position is counted part by part,
  from one index on. The region shrinks by one part in every
  step.
-/
theorem counted_checkParts
    {position : Position}
    {level limit index : Nat}
    {es : List Expr}
    (hParts : (policy.partsAt position).drop index = es)
    (hEach :
      ∀ place, ∀ e ∈ es,
        policy.exprAt? (place :: position) = some e →
          policy.Counted limit
            (fun other => (place :: position) <:+ other)
            (checker.check (place :: position) level e).2) :
    policy.Counted limit
      (fun other =>
        ∃ place, index ≤ place ∧ (place :: position) <:+ other)
      ((checker.checkParts position level index es).map
        Prod.snd).flatten := by
  induction es generalizing index with
  | nil =>
      apply Policy.Counted.nil
      rintro other ⟨hAccess, _⟩ ⟨place, hPlace, hBelow⟩
      rcases Policy.exists_of_accessAt hAccess with ⟨e, hFound⟩
      have hInside := Policy.lt_length_partsAt hBelow hFound
      have hOutside := List.drop_eq_nil_iff.mp hParts
      omega
  | cons e es ih =>
      have hHere : policy.exprAt? (index :: position) = some e := by
        have hHead := congrArg (fun parts => parts[0]?) hParts
        simpa [Policy.exprAt?] using hHead
      have hTail :
          (policy.partsAt position).drop (index + 1) = es := by
        rw [← List.tail_drop, hParts, List.tail_cons]
      have hRest :=
        ih hTail fun place other hMem =>
          hEach place other (List.mem_cons_of_mem _ hMem)
      have hFirst := hEach index e List.mem_cons_self hHere
      apply Policy.Counted.of_region_iff (hFirst.append hRest ?_)
      · intro other _
        constructor
        · intro hLater
          rcases hLater with ⟨place, hPlace, hBelow⟩
          rcases Nat.eq_or_lt_of_le hPlace with rfl | hAfter
          · exact Or.inl hBelow
          · exact Or.inr ⟨place, hAfter, hBelow⟩
        · intro hEither
          rcases hEither with hBelow | ⟨place, hPlace, hBelow⟩
          · exact ⟨index, Nat.le_refl index, hBelow⟩
          · exact ⟨place, Nat.le_of_succ_le hPlace, hBelow⟩
      · rintro other hBelow ⟨place, hPlace, hOther⟩
        have hSame := index_eq_of_suffix hBelow hOther
        omega

/-
  An expression itself exceeds the limit if it is an access
  that has enough others around it.
-/
theorem counted_accessIssues
    (hLimit : checker.maxLevel ≠ 0)
    (hDepth :
      ∀ position, policy.accessesTo position < UInt32.size - 1)
    {e : Expr}
    {position : Position}
    (hFound : policy.exprAt? position = some e) :
    policy.Counted checker.maxLevel.toNat
      (fun other => other = position)
      (checker.accessIssues (policy.accessesTo position.tail) e) := by
  have hAt : policy.accessAt position = e.isAccess := by
    simp [Policy.accessAt, hFound]
  unfold accessIssues
  cases hAccess : e.isAccess with
  | false =>
      rw [if_neg Bool.false_ne_true]
      apply Policy.Counted.nil
      rintro other ⟨hOther, _⟩ rfl
      rw [hAt, hAccess] at hOther
      cases hOther
  | true =>
      have hLevel :
          policy.accessesTo position.tail + 1 < UInt32.size - 1 := by
        have hBound := hDepth position
        rw [Policy.accessesTo_of_exprAt? hFound, Expr.levelBelow,
          if_pos hAccess] at hBound
        exact hBound
      rw [if_pos rfl, levelIssues_eq hLimit hLevel]
      by_cases hAround :
          policy.accessesTo position.tail = checker.maxLevel.toNat
      · rw [if_pos (by rw [hAround])]
        refine ⟨[position], by simp, ?_, rfl⟩
        intro other
        rw [List.mem_singleton]
        constructor
        · rintro rfl
          exact ⟨⟨hAt.trans hAccess, hAround⟩, rfl⟩
        · exact And.right
      · rw [if_neg fun hSame => hAround (Nat.succ.inj hSame)]
        apply Policy.Counted.nil
        rintro other ⟨_, hOther⟩ rfl
        exact hAround hOther

/-
  In an expression the limit is exceeded by itself and in
  its parts.
-/
theorem counted_check
    (hOpen : ∀ position, checker.guard position = false)
    (hLimit : checker.maxLevel ≠ 0)
    (hDepth :
      ∀ position, policy.accessesTo position < UInt32.size - 1)
    (e : Expr)
    {position : Position}
    (hFound : policy.exprAt? position = some e) :
    policy.Counted checker.maxLevel.toNat
      (fun other => position <:+ other)
      (checker.check position (policy.accessesTo position.tail)
        e).2 := by
  induction e using Expr.parts_induction generalizing position with
  | hStep e ih =>
      have hLevel := Policy.accessesTo_of_exprAt? hFound
      have hParts :
          policy.Counted checker.maxLevel.toNat
            (fun other =>
              ∃ place, 0 ≤ place ∧ (place :: position) <:+ other)
            ((checker.checkParts position
              (e.levelBelow (policy.accessesTo position.tail)) 0
              e.children).map Prod.snd).flatten := by
        apply counted_checkParts
        · rw [List.drop_zero, Policy.partsAt_of_exprAt? hFound]
        · intro place part hPart hPartFound
          rw [← hLevel]
          exact ih part hPart hPartFound
      have hSelf := counted_accessIssues hLimit hDepth hFound
      refine Policy.Counted.of_filter_eq ?_
        (filter_check (hOpen position) _ e)
      apply Policy.Counted.of_region_iff (hSelf.append hParts ?_)
      · intro other _
        rw [suffix_iff_eq_or_below]
        simp
      · rintro other rfl ⟨place, _, hBelow⟩
        exact not_suffix_self hBelow

/- The issues of conditions about levels, condition by condition. -/
theorem filter_checkClauses
    (index : Nat)
    (clauses : List Clause) :
    (checker.checkClauses index clauses).filter
        Issue.isLevelExceeded =
      (((checker.checkParts [] 0 index
        (clauses.map Clause.body)).map Prod.snd).flatten).filter
        Issue.isLevelExceeded := by
  have hTy :
      ∀ ty,
        (conditionIssues ty).filter Issue.isLevelExceeded = [] := by
    intro ty
    simpa [List.filter_eq_nil_iff] using
      checker.finds_not_level.conditionIssues ty
  rw [checkClauses_eq, ← List.flatMap_def]
  simp only [List.filter_flatMap, List.filter_append, hTy,
    List.append_nil]

/- The issues about levels in the conditions of a policy. -/
theorem counted_checkConditions
    (hOpen : ∀ position, checker.guard position = false)
    (hLimit : checker.maxLevel ≠ 0)
    (hDepth :
      ∀ position, policy.accessesTo position < UInt32.size - 1) :
    policy.Counted checker.maxLevel.toNat (fun _ => True)
      (checker.checkConditions policy.conditions) := by
  have hParts :
      policy.Counted checker.maxLevel.toNat
        (fun other => ∃ place, 0 ≤ place ∧ [place] <:+ other)
        ((checker.checkParts [] 0 0
          (policy.conditions.map Clause.body)).map
          Prod.snd).flatten := by
    apply counted_checkParts
    · rw [List.drop_zero, Policy.partsAt]
    · intro place e _ hFound
      exact counted_check hOpen hLimit hDepth e hFound
  rw [checkConditions_eq_limitOnce]
  refine Policy.Counted.of_filter_eq ?_
    ((filter_limitOnce_of_not rfl _).trans (filter_checkClauses 0 _))
  apply hParts.of_region_iff
  rintro other ⟨hAccess, _⟩
  -- Every position with an access lies in some condition.
  have hInside : [] <:+ other := List.nil_suffix
  rcases suffix_iff_eq_or_below.mp hInside with rfl | ⟨place, hPlace⟩
  · cases hAccess
  · exact ⟨fun _ => ⟨place, Nat.zero_le _, hPlace⟩, fun _ => trivial⟩

end Counting

------------------------------------------------------------
-- Other Issues
------------------------------------------------------------

/- What is found, except for issues about levels. -/
def withoutLevels
    (checked : Checked) : Checked :=
  (checked.1, checked.2.filter fun issue => !issue.isLevelExceeded)

/- Nothing else depends on the limit, if nothing in parts does. -/
theorem withoutLevels_assemble
    (level other : Nat)
    (e : Expr)
    (parts : List Checked) :
    withoutLevels (checker.assemble level e parts) =
      checker.unlimited.assemble other e
        (parts.map withoutLevels) := by
  have hTypes :
      (parts.map withoutLevels).map Prod.fst =
        parts.map Prod.fst := by
    rw [List.map_map]
    rfl
  have hIssues :
      (parts.map withoutLevels).map Prod.snd =
        (parts.map Prod.snd).map
          (List.filter fun issue => !issue.isLevelExceeded) := by
    rw [List.map_map, List.map_map]
    rfl
  have hHere :
      (checker.accessIssues level e).filter
          (fun issue => !issue.isLevelExceeded) = [] := by
    rw [← filter_accessIssues, List.filter_filter]
    simp
  have hNone : checker.unlimited.accessIssues other e = [] := by
    simp [accessIssues]
  have hVerdict := checker.finds_not_level.verdict e (parts.map Prod.fst)
  have hAround :
      ((checker.verdict e (parts.map Prod.fst)).around
          (parts.map Prod.snd)).filter
          (fun issue => !issue.isLevelExceeded) =
        (checker.verdict e (parts.map Prod.fst)).around
          ((parts.map Prod.snd).map
            (List.filter fun issue => !issue.isLevelExceeded)) := by
    apply Verdict.filter_around_of_all
    · simpa using hVerdict.1
    · simpa using hVerdict.2
  rw [withoutLevels, assemble, assemble, hTypes, hIssues, hNone,
    verdict_unlimited, List.filter_append, hHere, hAround]

/- The same for lists of parts, one by one. -/
theorem map_withoutLevels_checkParts
    {position : Position}
    {level other : Nat}
    {es : List Expr}
    (hEach :
      ∀ e ∈ es, ∀ position,
        withoutLevels (checker.check position level e) =
          checker.unlimited.check position other e)
    (index : Nat) :
    (checker.checkParts position level index es).map withoutLevels =
      checker.unlimited.checkParts position other index es := by
  induction es generalizing index with
  | nil => rfl
  | cons e es ih =>
      rw [checkParts, checkParts, List.map_cons,
        hEach e List.mem_cons_self]
      congr 1
      apply ih
      intro member hMem
      exact hEach member (List.mem_cons_of_mem _ hMem)

/-
  Except for issues about levels, an expression is judged as
  without a limit.
-/
theorem withoutLevels_check
    (checker : Checker)
    (position : Position)
    (level other : Nat)
    (e : Expr) :
    withoutLevels (checker.check position level e) =
      checker.unlimited.check position other e := by
  induction e using Expr.parts_induction
    generalizing position level other with
  | hStep e ih =>
      cases hGuard : checker.guard position with
      | true =>
          have hOther : checker.unlimited.guard position = true :=
            hGuard
          rw [check_of_guard hGuard, check_of_guard hOther]
          rfl
      | false =>
          have hOther : checker.unlimited.guard position = false :=
            hGuard
          rw [check_eq hGuard, check_eq hOther,
            withoutLevels_assemble level other]
          congr 1
          apply map_withoutLevels_checkParts
          intro part hPart place
          exact ih part hPart place _ _

/- The same for conditions, one by one. -/
theorem filter_not_checkClauses
    (index : Nat)
    (clauses : List Clause) :
    (checker.checkClauses index clauses).filter
        (fun issue => !issue.isLevelExceeded) =
      checker.unlimited.checkClauses index clauses := by
  have hTy :
      ∀ ty,
        (conditionIssues ty).filter
            (fun issue => !issue.isLevelExceeded) =
          conditionIssues ty := by
    intro ty
    rw [List.filter_eq_self]
    simpa using checker.finds_not_level.conditionIssues ty
  have hBodies :
      (checker.checkParts [] 0 index
          (clauses.map Clause.body)).map withoutLevels =
        checker.unlimited.checkParts [] 0 index
          (clauses.map Clause.body) := by
    apply map_withoutLevels_checkParts
    intro e _ position
    exact checker.withoutLevels_check position 0 0 e
  rw [checkClauses_eq, checkClauses_eq, ← hBodies]
  simp only [List.filter_flatMap, List.flatMap_map, withoutLevels,
    List.filter_append, hTy]

/-
  Except for issues about levels, conditions are judged as
  without a limit.
-/
theorem filter_not_checkConditions
    (conditions : List Clause) :
    (checker.checkConditions conditions).filter
        (fun issue => !issue.isLevelExceeded) =
      checker.unlimited.checkConditions conditions := by
  rw [checkConditions_eq_limitOnce, checkConditions_eq_limitOnce,
    filter_limitOnce_of_chosen rfl, filter_not_checkClauses]

end Checker

------------------------------------------------------------
-- Policies
------------------------------------------------------------

/-
  No issue of a policy is about levels, except for those
  with the types of its conditions.
-/
theorem Policy.preliminary_not_level
    (schema : Schema)
    (policy : Policy) :
    ∀ issue ∈ schema.scopeIssues policy ++
        policy.impossibleConditions.map Issue.impossible,
      issue.isLevelExceeded = false := by
  refine schema.forall_preliminary policy ?_ ?_ ?_
  · intro type
    rfl
  · intro uid
    rfl
  · intro reason
    rfl

namespace Validator

/- A validator with another limit on attribute accesses. -/
def withLimit
    (validator : Validator)
    (limit : UInt32) : Validator :=
  ⟨validator.schema,
    { validator.options with maxAttributeLevel := limit }⟩

variable {validator : Validator} {policy : Policy}

/- The issues of a policy about levels are counted. -/
theorem counted_policyIssues
    (hApplies : validator.schema.hasApplicableAction = true)
    {limit : UInt32}
    (hLimit : limit ≠ 0)
    (hDepth :
      ∀ position, policy.accessesTo position < UInt32.size - 1) :
    policy.Counted limit.toNat (fun _ => True)
      ((validator.withLimit limit).policyIssues Guard.never
        policy) := by
  let checker :=
    (validator.withLimit limit).checker Guard.never policy
  have hOpen : ∀ position, checker.guard position = false :=
    fun _ => rfl
  have hConditions :
      policy.Counted limit.toNat (fun _ => True)
        (checker.checkConditions policy.conditions) :=
    checker.counted_checkConditions hOpen hLimit hDepth
  have hNone :
      (validator.schema.scopeIssues policy ++
          policy.impossibleConditions.map Issue.impossible).filter
        Issue.isLevelExceeded = [] := by
    rw [List.filter_eq_nil_iff]
    intro issue hIssue
    simp [policy.preliminary_not_level _ issue hIssue]
  apply hConditions.of_filter_eq
  rw [policyIssues, withLimit, if_pos hApplies, List.filter_append,
    hNone]
  rfl

/- All other issues of a policy are those without a limit. -/
theorem filter_not_policyIssues
    (validator : Validator)
    (policy : Policy)
    (limit : UInt32)
    (guard : Guard) :
    ((validator.withLimit limit).policyIssues guard policy).filter
        (fun issue => !issue.isLevelExceeded) =
      (validator.withLimit 0).policyIssues guard policy := by
  let checker := (validator.withLimit limit).checker guard policy
  have hConditions :
      (checker.checkConditions policy.conditions).filter
          (fun issue => !issue.isLevelExceeded) =
        checker.unlimited.checkConditions policy.conditions :=
    checker.filter_not_checkConditions policy.conditions
  have hAll :
      (validator.schema.scopeIssues policy ++
          policy.impossibleConditions.map Issue.impossible).filter
          (fun issue => !issue.isLevelExceeded) =
        validator.schema.scopeIssues policy ++
          policy.impossibleConditions.map Issue.impossible := by
    rw [List.filter_eq_self]
    intro issue hIssue
    simp [policy.preliminary_not_level _ issue hIssue]
  unfold policyIssues
  by_cases hApplies : validator.schema.hasApplicableAction = true
  · rw [withLimit, withLimit, if_pos hApplies, if_pos hApplies,
      List.filter_append, hAll]
    exact congrArg _ hConditions
  · rw [withLimit, withLimit, if_neg hApplies, if_neg hApplies]
    rfl

/- Some issue is about levels if too many accesses are nested. -/
theorem exists_level_issue_iff
    (hApplies : validator.schema.hasApplicableAction = true)
    {limit : UInt32}
    (hLimit : limit ≠ 0)
    (hDepth :
      ∀ position, policy.accessesTo position < UInt32.size - 1) :
    (∃ issue ∈
        (validator.withLimit limit).policyIssues Guard.never policy,
        issue.isLevelExceeded = true) ↔
      ∃ position, limit.toNat < policy.accessesTo position := by
  rw [(counted_policyIssues hApplies hLimit hDepth).exists_iff,
    ← Policy.exists_exceeds_iff]
  simp only [and_true]

/- What passes with a limit passes with every larger one. -/
theorem policyIssues_eq_nil_of_le
    (hApplies : validator.schema.hasApplicableAction = true)
    {limit larger : UInt32}
    (hLimit : limit ≠ 0)
    (hLarger : limit ≤ larger)
    (hDepth :
      ∀ position, policy.accessesTo position < UInt32.size - 1)
    (hPasses :
      (validator.withLimit limit).policyIssues Guard.never policy =
        []) :
    (validator.withLimit larger).policyIssues Guard.never policy =
      [] := by
  rw [UInt32.le_iff_toNat_le] at hLarger
  have hSome : larger ≠ 0 := by
    rintro rfl
    exact hLimit (UInt32.toNat_inj.mp (Nat.le_zero.mp hLarger))
  rw [List.eq_nil_iff_forall_not_mem]
  intro issue hIssue
  cases hLevel : issue.isLevelExceeded with
  | true =>
      rcases (exists_level_issue_iff hApplies hSome hDepth).mp
            ⟨issue, hIssue, hLevel⟩ with
        ⟨position, hMore⟩
      have hExceeded :=
        (exists_level_issue_iff hApplies hLimit hDepth).mpr
          ⟨position, Nat.lt_of_le_of_lt hLarger hMore⟩
      simp [hPasses] at hExceeded
  | false =>
      have hOther :
          issue ∈
            (validator.withLimit 0).policyIssues Guard.never
              policy := by
        rw [← filter_not_policyIssues validator policy larger]
        exact List.mem_filter.mpr ⟨hIssue, by simp [hLevel]⟩
      rw [← filter_not_policyIssues validator policy limit,
        hPasses] at hOther
      cases hOther

end Validator

------------------------------------------------------------
-- Limits
------------------------------------------------------------

/-
  A limit is reported to be exceeded by one, once for every
  attribute access with exactly as many accesses around it
  as the limit allows: so at all if and only if more
  accesses are nested somewhere. Apart from these reports,
  a policy is judged as without a limit, and it passes with
  every larger limit if it passes with one.
-/
theorem level_limit_counts_nested_accesses
    (validator : Validator)
    (policy : Policy)
    (hApplies : validator.schema.hasApplicableAction = true)
    (limit : UInt32)
    (hLimit : limit ≠ 0)
    (hDepth :
      ∀ position, policy.accessesTo position < UInt32.size - 1) :
    (∃ nodes : List Position,
      nodes.Nodup ∧
        (∀ position,
          position ∈ nodes ↔
            policy.accessAt position = true ∧
              policy.accessesTo position.tail = limit.toNat) ∧
        ((validator.withLimit limit).validatePolicies Guard.never
            [policy]).filter
            (fun diagnostic => diagnostic.issue.isLevelExceeded) =
          List.replicate nodes.length
            ⟨policy.id,
              .levelExceeded limit.toNat (limit.toNat + 1)⟩) ∧
      ((∃ diagnostic ∈
          (validator.withLimit limit).validatePolicies Guard.never
            [policy],
          diagnostic.issue.isLevelExceeded = true) ↔
        ∃ position, limit.toNat < policy.accessesTo position) ∧
      ((validator.withLimit limit).validatePolicies Guard.never
          [policy]).filter
          (fun diagnostic => !diagnostic.issue.isLevelExceeded) =
        (validator.withLimit 0).validatePolicies Guard.never
          [policy] ∧
      ((validator.withLimit limit).validatePolicies Guard.never
          [policy] = [] →
        ∀ larger, limit ≤ larger →
          (validator.withLimit larger).validatePolicies Guard.never
            [policy] = []) := by
  simp only [Validator.validatePolicies_singleton, List.filter_map,
    List.map_eq_nil_iff]
  refine ⟨?_, ?_, ?_, ?_⟩
  · rcases Validator.counted_policyIssues hApplies hLimit hDepth with
      ⟨nodes, hNodup, hNodes, hIssues⟩
    refine ⟨nodes, hNodup, ?_, ?_⟩
    · intro position
      rw [hNodes, and_true, Policy.Exceeds]
    · have hSame :=
        congrArg (List.map (Diagnostic.mk policy.id)) hIssues
      rw [List.map_replicate] at hSame
      exact hSame
  · rw [← Validator.exists_level_issue_iff hApplies hLimit hDepth]
    constructor
    · intro hReported
      rcases hReported with ⟨diagnostic, hMem, hLevel⟩
      rcases List.mem_map.mp hMem with ⟨issue, hIssue, rfl⟩
      exact ⟨issue, hIssue, hLevel⟩
    · intro hFound
      rcases hFound with ⟨issue, hIssue, hLevel⟩
      exact ⟨_, List.mem_map_of_mem hIssue, hLevel⟩
  · exact
      congrArg (List.map (Diagnostic.mk policy.id))
        (Validator.filter_not_policyIssues validator policy limit _)
  · intro hPasses larger hLarger
    exact
      Validator.policyIssues_eq_nil_of_le hApplies hLimit hLarger
        hDepth hPasses

/- A bureau with employees, who have managers and own desks. -/
def bureauSchema : Schema :=
  ⟨[(⟨"Desk"⟩,
        ⟨⟨"Desk"⟩,
          ⟨[("owner", ⟨.entity ⟨"Employee"⟩, true⟩)],
            .closedAttributes⟩,
          []⟩),
      (⟨"Employee"⟩,
        ⟨⟨"Employee"⟩,
          ⟨[("manager", ⟨.entity ⟨"Employee"⟩, true⟩),
              ("name", ⟨.string, true⟩)],
            .closedAttributes⟩,
          []⟩)],
    [(⟨⟨"Action"⟩, "book"⟩,
        ⟨⟨⟨"Action"⟩, "book"⟩, [⟨"Employee"⟩], [⟨"Desk"⟩],
          .anything, []⟩)],
    []⟩

/- The manager of an employee. -/
def managerOf
    (employee : Expr) : Expr :=
  .getAttr employee "manager"

/- The owner of the desk. -/
def deskOwner : Expr :=
  .getAttr (.var .resource) "owner"

/-
  Who decides on the desk is called Ada. Four accesses stand
  in the access to the name, and a fifth one in one of them.
-/
def bureauCondition : Expr :=
  .binary .eq
    (.getAttr
      (.ite (.binary .eq (managerOf (.var .principal)) deskOwner)
        (managerOf (managerOf (.var .principal)))
        deskOwner)
      "name")
    (.lit (.string "Ada"))

/- Employees can book desks under the condition. -/
def bureauPolicy : Policy :=
  ⟨⟨"bureau"⟩, .permit, .is ⟨"Employee"⟩,
    .eq ⟨⟨"Action"⟩, "book"⟩, .is ⟨"Desk"⟩,
    [⟨.when, bureauCondition⟩]⟩

/-
  A limit of one is exceeded four times, and a limit of three
  is kept, so larger ones are as well.
-/
theorem bureau_levels_counted :
    bureauSchema.hasApplicableAction = true ∧
      (∀ position,
        bureauPolicy.accessesTo position < UInt32.size - 1) ∧
      ((Validator.mk bureauSchema default).withLimit
          1).validatePolicies Guard.never [bureauPolicy] =
        List.replicate 4 ⟨⟨"bureau"⟩, .levelExceeded 1 2⟩ ∧
      (∃ nodes : List Position,
        nodes.length = 4 ∧ nodes.Nodup ∧
          ∀ position,
            position ∈ nodes ↔
              bureauPolicy.accessAt position = true ∧
                bureauPolicy.accessesTo position.tail = 1) ∧
      ((Validator.mk bureauSchema default).withLimit
          3).validatePolicies Guard.never [bureauPolicy] = [] ∧
      ∀ larger, 3 ≤ larger →
        ((Validator.mk bureauSchema default).withLimit
          larger).validatePolicies Guard.never [bureauPolicy] =
          [] := by
  have hApplies : bureauSchema.hasApplicableAction = true := by
    decide +kernel
  have hDepth :
      ∀ position,
        bureauPolicy.accessesTo position < UInt32.size - 1 := by
    intro position
    have hWeight := bureauPolicy.accessesTo_add_listWeight_le position
    have hSmall :
        Expr.listWeight (bureauPolicy.conditions.map Clause.body) <
          UInt32.size - 1 := by
      decide
    omega
  have hExceeded :
      ((Validator.mk bureauSchema default).withLimit
          1).validatePolicies Guard.never [bureauPolicy] =
        List.replicate 4 ⟨⟨"bureau"⟩, .levelExceeded 1 2⟩ := by
    decide +kernel
  have hKept :
      ((Validator.mk bureauSchema default).withLimit
          3).validatePolicies Guard.never [bureauPolicy] = [] := by
    decide +kernel
  rcases level_limit_counts_nested_accesses
        (Validator.mk bureauSchema default) bureauPolicy hApplies 1
        (by decide) hDepth with
    ⟨⟨nodes, hNodup, hNodes, hReports⟩, _⟩
  rcases level_limit_counts_nested_accesses
        (Validator.mk bureauSchema default) bureauPolicy hApplies 3
        (by decide) hDepth with
    ⟨_, _, _, hLarger⟩
  have hLength : nodes.length = 4 := by
    have hCount := congrArg List.length hReports
    rw [hExceeded, List.length_replicate] at hCount
    exact hCount.symm
  exact
    ⟨hApplies, hDepth, hExceeded, ⟨nodes, hLength, hNodup, hNodes⟩,
      hKept, hLarger hKept⟩

end PolicyCheck
