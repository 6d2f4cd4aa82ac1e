import PolicyCheck.Proofs.Candidates

/-
  Walks along a relation, given step by step, and what the
  search for descendants says about them. A type can be a
  descendant of another exactly if a walk of one or more
  memberships leads there, and of itself exactly if it lies
  on a cycle without repeats.

  Main declarations:
    * `IsWalk`
    * `transGen_iff_walk`
    * `IsWalk.shortcut`
    * `OnCycle`
    * `IsWalk.onCycle`
    * `onCycle_iff`
    * `descendants_are_reachable`
-/

------------------------------------------------------------
-- Walks
------------------------------------------------------------

namespace PolicyCheck

variable {α : Type} {step : α → α → Prop}

/-
  The first `length` steps between the nodes of a sequence
  follow the relation. What comes after them is left open.
-/
def IsWalk
    (step : α → α → Prop)
    (length : Nat)
    (node : Nat → α) : Prop :=
  ∀ i < length, step (node i) (node (i + 1))

namespace IsWalk

variable {length : Nat} {node : Nat → α}

/- A later node of a walk is reached from an earlier one. -/
theorem transGen
    (hWalk : IsWalk step length node)
    {i j : Nat}
    (hLt : i < j)
    (hLe : j ≤ length) :
    Relation.TransGen step (node i) (node j) := by
  induction j with
  | zero => omega
  | succ j ih =>
      have hLast : step (node j) (node (j + 1)) := hWalk j (by omega)
      by_cases hSame : i = j
      · rw [hSame]
        exact .single hLast
      · exact .tail (ih (by omega) (by omega)) hLast

/- A walk can be followed by one more step. -/
theorem extend
    (hWalk : IsWalk step length node)
    {last : α}
    (hStep : step (node length) last) :
    IsWalk step (length + 1)
      (fun i => if i ≤ length then node i else last) := by
  intro i hLt
  by_cases hInside : i < length
  · have hLe : i ≤ length := by omega
    have hNext : i + 1 ≤ length := by omega
    simpa [hLe, hNext] using hWalk i hInside
  · have hEnd : i = length := by omega
    have hNext : ¬ length + 1 ≤ length := by omega
    simpa [hEnd, hNext] using hStep

/-
  The part of a walk between two visits of the same node can
  be left out.
-/
theorem shortcut
    (hWalk : IsWalk step length node)
    {i j : Nat}
    (hLt : i < j)
    (hLe : j ≤ length)
    (hSame : node i = node j) :
    IsWalk step (length - (j - i))
      (fun k => if k ≤ i then node k else node (k + (j - i))) := by
  intro k hK
  by_cases hBefore : k < i
  · have hHere : k ≤ i := by omega
    have hNext : k + 1 ≤ i := by omega
    simpa [hHere, hNext] using hWalk k (by omega)
  · have hNext : ¬ k + 1 ≤ i := by omega
    have hStep := hWalk (k + (j - i)) (by omega)
    have hShift : k + (j - i) + 1 = k + 1 + (j - i) := by omega
    rw [hShift] at hStep
    by_cases hMeet : k = i
    · -- The step out of the second visit is taken from the first.
      have hVisit : node (k + (j - i)) = node k := by
        have hJump : k + (j - i) = j := by omega
        rw [hJump, hMeet, hSame]
      rw [hVisit] at hStep
      have hHere : k ≤ i := by omega
      simpa [hHere, hNext] using hStep
    · have hHere : ¬ k ≤ i := by omega
      simpa [hHere, hNext] using hStep

end IsWalk

/- Reaching takes a walk of one or more steps. -/
theorem transGen_iff_walk
    {source target : α} :
    Relation.TransGen step source target ↔
      ∃ length node,
        1 ≤ length ∧ node 0 = source ∧ node length = target ∧
          IsWalk step length node := by
  constructor
  · intro hPath
    induction hPath with
    | single hStep =>
        rename_i last
        have hStay : IsWalk step 0 fun _ => source := by
          intro i hLt
          omega
        exact ⟨1, _, by omega, rfl, rfl, hStay.extend hStep⟩
    | tail _ hStep ih =>
        obtain ⟨length, node, hLength, hFirst, hLast, hWalk⟩ := ih
        rw [← hLast] at hStep
        have hEnd : ¬ length + 1 ≤ length := by omega
        refine
          ⟨length + 1, _, by omega, ?_, ?_, hWalk.extend hStep⟩
        · simpa using hFirst
        · simp [hEnd]
  · rintro ⟨length, node, hLength, rfl, rfl, hWalk⟩
    exact hWalk.transGen (by omega) (by omega)

------------------------------------------------------------
-- Cycles
------------------------------------------------------------

/-
  A node lies on a cycle: a walk that ends where it starts
  and visits each of its nodes once.
-/
def OnCycle
    (step : α → α → Prop)
    (member : α) : Prop :=
  ∃ length node,
    IsWalk step length node ∧ node length = node 0 ∧
      (∀ i < length, ∀ j < length, node i = node j → i = j) ∧
      ∃ i < length, node i = member

/-
  A walk that leads back to its start can be cut down to a
  cycle. The induction is on the length, and each step
  leaves out what lies between two visits of a node.
-/
theorem IsWalk.onCycle
    {length : Nat}
    {node : Nat → α}
    (hWalk : IsWalk step length node)
    (hLength : 1 ≤ length)
    (hClosed : node length = node 0) :
    OnCycle step (node 0) := by
  induction length using Nat.strongRecOn generalizing node with
  | ind length ih =>
      by_cases hRepeat : ∃ i j, i < j ∧ j < length ∧ node i = node j
      · obtain ⟨i, j, hLt, hJ, hSame⟩ := hRepeat
        have hBack : length - (j - i) + (j - i) = length := by omega
        have hAfter : ¬ length - (j - i) ≤ i := by omega
        have hShort := hWalk.shortcut hLt (by omega) hSame
        apply ih (length - (j - i)) (by omega) hShort (by omega)
        simpa [hAfter, hBack] using hClosed
      · refine ⟨length, node, hWalk, hClosed, ?_, 0, hLength, rfl⟩
        intro i hI j hJ hSame
        by_cases hLt : i < j
        · exact absurd ⟨i, j, hLt, hJ, hSame⟩ hRepeat
        · by_cases hGt : j < i
          · exact absurd ⟨j, i, hGt, hI, hSame.symm⟩ hRepeat
          · omega

/- A node reaches itself exactly if it lies on a cycle. -/
theorem onCycle_iff
    {member : α} :
    OnCycle step member ↔ Relation.TransGen step member member := by
  constructor
  · rintro ⟨length, node, hWalk, hClosed, _, i, hLt, rfl⟩
    have hOut : Relation.TransGen step (node i) (node 0) := by
      rw [← hClosed]
      exact hWalk.transGen hLt (Nat.le_refl _)
    by_cases hStart : i = 0
    · rwa [hStart] at hOut ⊢
    · exact hOut.trans (hWalk.transGen (by omega) (by omega))
  · intro hPath
    obtain ⟨length, node, hLength, hFirst, hLast, hWalk⟩ :=
      transGen_iff_walk.mp hPath
    rw [← hFirst]
    exact hWalk.onCycle hLength (hLast.trans hFirst.symm)

------------------------------------------------------------
-- Descendants
------------------------------------------------------------

/-
  The search for descendants finds exactly what a walk of
  one or more memberships leads to, all types before the
  last being declared. A type finds itself exactly if it
  lies on a cycle, and one that is not declared finds
  nothing.
-/
theorem descendants_are_reachable
    (schema : Schema)
    (source target : EntityType) :
    (schema.canBeDescendant source target = true ↔
      ∃ (length : Nat) (type : Nat → EntityType),
        1 ≤ length ∧ type 0 = source ∧ type length = target ∧
          ∀ i < length,
            ∃ info,
              schema.entityType? (type i) = some info ∧
                type (i + 1) ∈ info.memberOf) ∧
      (schema.canBeDescendant source source = true ↔
        OnCycle schema.CanBelong source) ∧
      (schema.knowsType source = false →
        schema.canBeDescendant source target = false) := by
  refine ⟨?_, ?_, ?_⟩
  · exact Schema.canBeDescendant_iff.trans transGen_iff_walk
  · exact Schema.canBeDescendant_iff.trans onCycle_iff.symm
  · intro hUnknown
    rw [Bool.eq_false_iff]
    intro hReaches
    obtain ⟨next, ⟨info, hInfo, _⟩, _⟩ :=
      Relation.TransGen.head'_iff.mp
        (Schema.canBeDescendant_iff.mp hReaches)
    rw [Schema.knowsType, hInfo] at hUnknown
    cases hUnknown

end PolicyCheck
