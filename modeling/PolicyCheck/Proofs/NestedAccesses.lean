import PolicyCheck.Proofs.ConditionIssues

/-
  Attribute accesses that are nested in each other. One of
  them stands somewhere in another one, however many other
  expressions stand between them, so it is looked at where
  it stands: at a position of the policy, from which a way
  leads up to one of the conditions. A limit is exceeded by
  those accesses that have as many others around them as it
  allows.

  Main declarations:
    * `Policy.exprAt?`
    * `Policy.accessesTo`
    * `Policy.Exceeds`
    * `Policy.exists_exceeds_iff`
    * `Policy.accessesTo_add_listWeight_le`
    * `Policy.Counted`
    * `Policy.Counted.append`
-/

namespace PolicyCheck

------------------------------------------------------------
-- Positions In Policies
------------------------------------------------------------

namespace Policy

/-
  What stands directly below a position of a policy: all of
  its conditions, or the parts of an expression.
-/
def partsAt
    (policy : Policy) : Position → List Expr
  | [] => policy.conditions.map Clause.body
  | index :: position =>
      ((policy.partsAt position)[index]?.map Expr.children).getD []

/- The expression at a position of a policy. -/
def exprAt?
    (policy : Policy) : Position → Option Expr
  | [] => none
  | index :: position => (policy.partsAt position)[index]?

/- An attribute access stands at a position. -/
def accessAt
    (policy : Policy)
    (position : Position) : Bool :=
  (policy.exprAt? position).any Expr.isAccess

/- The number of attribute accesses at and around a position. -/
def accessesTo
    (policy : Policy) : Position → Nat
  | [] => 0
  | index :: position =>
      if policy.accessAt (index :: position) then
        policy.accessesTo position + 1
      else
        policy.accessesTo position

/-
  An attribute access stands at a position, with as many
  others around it as a limit allows.
-/
def Exceeds
    (policy : Policy)
    (limit : Nat)
    (position : Position) : Prop :=
  policy.accessAt position = true ∧
    policy.accessesTo position.tail = limit

variable {policy : Policy} {limit : Nat}

/- Below an expression stand its parts. -/
theorem partsAt_of_exprAt?
    {position : Position}
    {e : Expr}
    (hFound : policy.exprAt? position = some e) :
    policy.partsAt position = e.children := by
  cases position with
  | nil => cases hFound
  | cons index position =>
      have hPart : (policy.partsAt position)[index]? = some e :=
        hFound
      simp [partsAt, hPart]

/- The parts of an expression stand one step below it. -/
theorem exprAt?_cons
    {position : Position}
    {e part : Expr}
    {place : Nat}
    (hFound : policy.exprAt? position = some e)
    (hPart : e.children[place]? = some part) :
    policy.exprAt? (place :: position) = some part := by
  rw [exprAt?, partsAt_of_exprAt? hFound]
  exact hPart

/- Accesses are counted as the level of parts is. -/
theorem accessesTo_of_exprAt?
    {position : Position}
    {e : Expr}
    (hFound : policy.exprAt? position = some e) :
    policy.accessesTo position =
      e.levelBelow (policy.accessesTo position.tail) := by
  cases position with
  | nil => cases hFound
  | cons index position =>
      simp [accessesTo, accessAt, hFound, Expr.levelBelow]

/- Where there is an access, there is an expression. -/
theorem exists_of_accessAt
    {position : Position}
    (hAccess : policy.accessAt position = true) :
    ∃ e, policy.exprAt? position = some e := by
  cases hFound : policy.exprAt? position with
  | none => simp [accessAt, hFound] at hAccess
  | some e => exact ⟨e, rfl⟩

/-
  An expression below a position stands in one of the parts
  at that position.
-/
theorem lt_length_partsAt
    {index : Nat}
    {above position : Position}
    (hBelow : (index :: above) <:+ position)
    {e : Expr}
    (hFound : policy.exprAt? position = some e) :
    index < (policy.partsAt above).length := by
  induction position generalizing e with
  | nil => cases hFound
  | cons place position ih =>
      have hPart : (policy.partsAt position)[place]? = some e :=
        hFound
      rcases List.suffix_cons_iff.mp hBelow with hSame | hWithin
      · rcases List.cons.inj hSame with ⟨rfl, rfl⟩
        exact (List.getElem?_eq_some_iff.mp hPart).1
      · -- The position above has parts, so it has an expression.
        cases hOuter : policy.exprAt? position with
        | some outer => exact ih hWithin hOuter
        | none =>
            cases position with
            | nil => cases List.suffix_nil.mp hWithin
            | cons next rest =>
                have hNone :
                    (policy.partsAt rest)[next]? = none := hOuter
                simp [partsAt, hNone] at hPart

/-
  Some access has exactly as many others around it as the
  limit allows, if more than these are nested anywhere.
-/
theorem exists_exceeds_iff :
    (∃ position, policy.Exceeds limit position) ↔
      ∃ position, limit < policy.accessesTo position := by
  constructor
  · intro hExceeded
    rcases hExceeded with ⟨position, hAccess, hAround⟩
    refine ⟨position, ?_⟩
    cases position with
    | nil => cases hAccess
    | cons index position =>
        have hHere : policy.accessesTo position = limit := hAround
        simp [accessesTo, hAccess, hHere]
  · intro hNested
    rcases hNested with ⟨position, hMore⟩
    induction position with
    | nil => cases hMore
    | cons index position ih =>
        by_cases hAbove : limit < policy.accessesTo position
        · exact ih hAbove
        · rw [accessesTo] at hMore
          split at hMore
          · refine ⟨index :: position, ‹_›, ?_⟩
            show policy.accessesTo position = limit
            omega
          · exact absurd hMore hAbove

/-
  Accesses on the way to a position, together with all that
  stands below it, are no more than the conditions hold.
-/
theorem accessesTo_add_listWeight_le
    (policy : Policy)
    (position : Position) :
    policy.accessesTo position +
        Expr.listWeight (policy.partsAt position) ≤
      Expr.listWeight (policy.conditions.map Clause.body) := by
  induction position with
  | nil => simp [accessesTo, partsAt]
  | cons index position ih =>
      cases hFound : policy.exprAt? (index :: position) with
      | none =>
          have hPart : (policy.partsAt position)[index]? = none :=
            hFound
          simp [accessesTo, accessAt, hFound, partsAt, hPart,
            Expr.listWeight]
          omega
      | some e =>
          have hPart :
              (policy.partsAt position)[index]? = some e := hFound
          have hWeight :=
            Expr.weight_le_of_mem (List.mem_of_getElem? hPart)
          rw [Expr.weight_eq] at hWeight
          rw [partsAt_of_exprAt? hFound, accessesTo]
          split <;> omega

end Policy

------------------------------------------------------------
-- Regions
------------------------------------------------------------

/- What stands in a part stands in the whole, or is it. -/
theorem suffix_iff_eq_or_below
    {above position : Position} :
    above <:+ position ↔
      position = above ∨ ∃ index, (index :: above) <:+ position := by
  constructor
  · intro hWithin
    rcases hWithin with ⟨path, rfl⟩
    rcases List.eq_nil_or_concat path with rfl | ⟨front, index, rfl⟩
    · exact Or.inl rfl
    · refine Or.inr ⟨index, front, ?_⟩
      simp
  · intro hEither
    rcases hEither with rfl | ⟨index, hBelow⟩
    · exact List.suffix_refl position
    · exact (List.suffix_cons index above).trans hBelow

/- Nothing stands in two parts of an expression. -/
theorem index_eq_of_suffix
    {first second : Nat}
    {above position : Position}
    (hFirst : (first :: above) <:+ position)
    (hSecond : (second :: above) <:+ position) :
    first = second := by
  have hSuffix :=
    List.suffix_of_suffix_length_le hFirst hSecond (by simp)
  exact (List.cons.inj (hSuffix.eq_of_length (by simp))).1

/- An expression does not stand in its own parts. -/
theorem not_suffix_self
    {index : Nat}
    {position : Position} :
    ¬ (index :: position) <:+ position := by
  intro hBelow
  have hLength := hBelow.length_le
  rw [List.length_cons] at hLength
  omega

------------------------------------------------------------
-- Counting
------------------------------------------------------------

/-
  The issues about levels are one for every position of a
  region at which the limit is exceeded.
-/
def Policy.Counted
    (policy : Policy)
    (limit : Nat)
    (region : Position → Prop)
    (issues : List Issue) : Prop :=
  ∃ nodes : List Position,
    nodes.Nodup ∧
      (∀ position,
        position ∈ nodes ↔
          policy.Exceeds limit position ∧ region position) ∧
      issues.filter Issue.isLevelExceeded =
        List.replicate nodes.length
          (.levelExceeded limit (limit + 1))

namespace Policy.Counted

variable {policy : Policy} {limit : Nat}

/- Only the issues about levels are counted. -/
theorem of_filter_eq
    {region : Position → Prop}
    {issues others : List Issue}
    (hCounted : policy.Counted limit region issues)
    (hSame :
      others.filter Issue.isLevelExceeded =
        issues.filter Issue.isLevelExceeded) :
    policy.Counted limit region others := by
  rcases hCounted with ⟨nodes, hNodup, hNodes, hIssues⟩
  exact ⟨nodes, hNodup, hNodes, hSame.trans hIssues⟩

/- Only the positions at which the limit is exceeded are counted. -/
theorem of_region_iff
    {region other : Position → Prop}
    {issues : List Issue}
    (hCounted : policy.Counted limit region issues)
    (hSame :
      ∀ position, policy.Exceeds limit position →
        (other position ↔ region position)) :
    policy.Counted limit other issues := by
  rcases hCounted with ⟨nodes, hNodup, hNodes, hIssues⟩
  refine ⟨nodes, hNodup, ?_, hIssues⟩
  intro position
  rw [hNodes]
  exact and_congr_right fun hExceeds => (hSame position hExceeds).symm

/- Nothing is counted where the limit is not exceeded. -/
theorem nil
    {region : Position → Prop}
    (hNone :
      ∀ position, policy.Exceeds limit position → ¬ region position) :
    policy.Counted limit region [] := by
  refine ⟨[], List.nodup_nil, ?_, rfl⟩
  intro position
  simpa using hNone position

/- The issues of two regions without a common position add up. -/
theorem append
    {first second : Position → Prop}
    {issues others : List Issue}
    (hFirst : policy.Counted limit first issues)
    (hSecond : policy.Counted limit second others)
    (hApart : ∀ position, first position → ¬ second position) :
    policy.Counted limit
      (fun position => first position ∨ second position)
      (issues ++ others) := by
  rcases hFirst with ⟨nodes, hNodup, hNodes, hIssues⟩
  rcases hSecond with ⟨more, hMoreNodup, hMore, hOthers⟩
  refine ⟨nodes ++ more, ?_, ?_, ?_⟩
  · rw [List.nodup_append]
    refine ⟨hNodup, hMoreNodup, ?_⟩
    intro position hNode other hOther hSame
    have hLeft := ((hNodes position).mp hNode).2
    have hRight := ((hMore other).mp hOther).2
    exact hApart position hLeft (hSame ▸ hRight)
  · intro position
    rw [List.mem_append, hNodes, hMore, and_or_left]
  · rw [List.filter_append, hIssues, hOthers, List.length_append,
      List.replicate_append_replicate]

/- Some issue is about levels if the limit is exceeded. -/
theorem exists_iff
    {region : Position → Prop}
    {issues : List Issue}
    (hCounted : policy.Counted limit region issues) :
    (∃ issue ∈ issues, issue.isLevelExceeded = true) ↔
      ∃ position,
        policy.Exceeds limit position ∧ region position := by
  rcases hCounted with ⟨nodes, _, hNodes, hIssues⟩
  constructor
  · intro hSome
    rcases hSome with ⟨issue, hMem, hLevel⟩
    have hChosen := List.mem_filter.mpr ⟨hMem, hLevel⟩
    rw [hIssues, List.mem_replicate] at hChosen
    rcases List.exists_mem_of_ne_nil nodes
          fun hNil => hChosen.1 (congrArg List.length hNil) with
      ⟨position, hPosition⟩
    exact ⟨position, (hNodes position).mp hPosition⟩
  · intro hExceeded
    rcases hExceeded with ⟨position, hPosition⟩
    have hLength :=
      List.length_pos_of_mem ((hNodes position).mpr hPosition)
    have hChosen :
        Issue.levelExceeded limit (limit + 1) ∈
          issues.filter Issue.isLevelExceeded := by
      rw [hIssues, List.mem_replicate]
      exact ⟨Nat.pos_iff_ne_zero.mp hLength, rfl⟩
    exact ⟨_, List.mem_filter.mp hChosen⟩

end Policy.Counted

end PolicyCheck
