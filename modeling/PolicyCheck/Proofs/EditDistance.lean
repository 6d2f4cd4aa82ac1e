import Mathlib.Order.Bounds.Basic
import PolicyCheck.Text.Distance

/-
  The distance between two texts is the least number of
  single edits that lead from one to the other, in whatever
  order and at whatever places the edits are made. The rows
  of the table hold the costs of all beginnings of the second
  text; a cost never grows by more than one edit changes, so
  characters that agree are never worth an edit.

  Main declarations:
    * `Text.Edit`
    * `Text.Edits`
    * `Text.cost`
    * `Text.distance_eq_cost`
    * `Text.isLeast_distance`
    * `suggestions_take_fewest_edits`
-/

namespace PolicyCheck

namespace Text

------------------------------------------------------------
-- Edits
------------------------------------------------------------

/- One character is inserted, deleted or replaced. -/
inductive Edit : List Char → List Char → Prop where
  | insert (before after : List Char) (c : Char) :
      Edit (before ++ after) (before ++ c :: after)
  | delete (before after : List Char) (c : Char) :
      Edit (before ++ c :: after) (before ++ after)
  | substitute (before after : List Char) (c d : Char) :
      Edit (before ++ c :: after) (before ++ d :: after)

/- A number of edits, one after the other. -/
inductive Edits : Nat → List Char → List Char → Prop where
  | none (cs : List Char) : Edits 0 cs cs
  | more {n : Nat} {cs ds es : List Char} :
      Edit cs ds → Edits n ds es → Edits (n + 1) cs es

theorem Edit.symm
    {cs ds : List Char}
    (hEdit : Edit cs ds) :
    Edit ds cs := by
  cases hEdit with
  | insert before after c => exact .delete before after c
  | delete before after c => exact .insert before after c
  | substitute before after c d => exact .substitute before after d c

/- An edit can be made behind a character as well. -/
theorem Edit.cons
    {cs ds : List Char}
    (hEdit : Edit cs ds)
    (c : Char) :
    Edit (c :: cs) (c :: ds) := by
  cases hEdit with
  | insert before after d => exact .insert (c :: before) after d
  | delete before after d => exact .delete (c :: before) after d
  | substitute before after d e =>
      exact .substitute (c :: before) after d e

theorem Edit.reverse
    {cs ds : List Char}
    (hEdit : Edit cs ds) :
    Edit cs.reverse ds.reverse := by
  cases hEdit with
  | insert before after c =>
      simpa using Edit.insert after.reverse before.reverse c
  | delete before after c =>
      simpa using Edit.delete after.reverse before.reverse c
  | substitute before after c d =>
      simpa using Edit.substitute after.reverse before.reverse c d

namespace Edits

theorem trans
    {m n : Nat}
    {cs ds es : List Char}
    (hFirst : Edits m cs ds)
    (hSecond : Edits n ds es) :
    Edits (m + n) cs es := by
  induction hFirst with
  | none cs => simpa using hSecond
  | more hEdit _ ih =>
      rw [Nat.add_right_comm]
      exact .more hEdit (ih hSecond)

theorem of_edit
    {cs ds : List Char}
    (hEdit : Edit cs ds) :
    Edits 1 cs ds :=
  .more hEdit (.none ds)

theorem symm
    {n : Nat}
    {cs ds : List Char}
    (hEdits : Edits n cs ds) :
    Edits n ds cs := by
  induction hEdits with
  | none cs => exact .none cs
  | more hEdit _ ih => exact ih.trans (of_edit hEdit.symm)

theorem cons
    {n : Nat}
    {cs ds : List Char}
    (hEdits : Edits n cs ds)
    (c : Char) :
    Edits n (c :: cs) (c :: ds) := by
  induction hEdits with
  | none cs => exact .none (c :: cs)
  | more hEdit _ ih => exact .more (hEdit.cons c) ih

theorem reverse
    {n : Nat}
    {cs ds : List Char}
    (hEdits : Edits n cs ds) :
    Edits n cs.reverse ds.reverse := by
  induction hEdits with
  | none cs => exact .none cs.reverse
  | more hEdit _ ih => exact .more hEdit.reverse ih

/- No edit changes nothing. -/
theorem zero_iff
    {cs ds : List Char} :
    Edits 0 cs ds ↔ cs = ds := by
  constructor
  · intro hEdits
    cases hEdits with
    | none cs => rfl
  · intro hSame
    rw [hSame]
    exact .none ds

/- All characters of a text can be inserted one by one. -/
theorem of_nil
    (ds : List Char) :
    Edits ds.length [] ds := by
  induction ds with
  | nil => exact .none []
  | cons d ds ih => exact ih.trans (of_edit (.insert [] ds d))

end Edits

------------------------------------------------------------
-- Costs
------------------------------------------------------------

/-
  The entry of the distance table for two texts, which are
  read from their ends.
-/
def cost : List Char → List Char → Nat
  | [], ds => ds.length
  | c :: cs, [] => cs.length + 1
  | c :: cs, d :: ds =>
      if c = d then cost cs ds
      else
        1 + min (cost cs ds) (min (cost cs (d :: ds)) (cost (c :: cs) ds))
termination_by cs ds => cs.length + ds.length

theorem cost_nil
    (ds : List Char) :
    cost [] ds = ds.length := by
  rw [cost]

theorem cost_to_nil
    (cs : List Char) :
    cost cs [] = cs.length := by
  cases cs with
  | nil => rw [cost]
  | cons c cs => rw [cost, List.length_cons]

theorem cost_same
    (c : Char)
    (cs ds : List Char) :
    cost (c :: cs) (c :: ds) = cost cs ds := by
  rw [cost, if_pos rfl]

theorem cost_of_ne
    {c d : Char}
    (hOther : c ≠ d)
    (cs ds : List Char) :
    cost (c :: cs) (d :: ds) =
      1 + min (cost cs ds)
        (min (cost cs (d :: ds)) (cost (c :: cs) ds)) := by
  rw [cost, if_neg hOther]

/- As many edits as an entry says are enough. -/
theorem edits_cost
    (cs ds : List Char) :
    Edits (cost cs ds) cs ds := by
  fun_induction cost cs ds with
  | case1 ds => exact .of_nil ds
  | case2 c cs => exact (Edits.of_nil (c :: cs)).symm
  | case3 cs d ds ih => exact ih.cons d
  | case4 c cs d ds hOther ihBoth ihLeft ihRight =>
      have hBoth := Edits.more (.substitute [] cs c d) (ihBoth.cons d)
      have hLeft := Edits.more (.delete [] cs c) ihLeft
      have hRight := ihRight.trans (.of_edit (.insert [] ds d))
      rw [Nat.add_comm]
      rcases Nat.le_total (cost cs ds)
        (min (cost cs (d :: ds)) (cost (c :: cs) ds)) with hLe | hGe
      · rw [Nat.min_eq_left hLe]
        exact hBoth
      · rw [Nat.min_eq_right hGe]
        rcases Nat.le_total (cost cs (d :: ds)) (cost (c :: cs) ds)
          with hLe | hGe
        · rw [Nat.min_eq_left hLe]
          exact hLeft
        · rw [Nat.min_eq_right hGe]
          exact hRight

------------------------------------------------------------
-- Single Edits
------------------------------------------------------------

theorem cost_comm
    (cs ds : List Char) :
    cost cs ds = cost ds cs := by
  fun_induction cost cs ds with
  | case1 ds => rw [cost_to_nil]
  | case2 c cs => rw [cost_nil, List.length_cons]
  | case3 cs d ds ih => rw [cost_same, ih]
  | case4 c cs d ds hOther ihBoth ihLeft ihRight =>
      rw [cost_of_ne (Ne.symm hOther), ihBoth, ihLeft, ihRight,
        Nat.min_comm (cost (d :: ds) cs)]

/-
  A character more costs one edit at most if a character
  less of the other text does.
-/
theorem cost_cons_le_of_drop
    {cs : List Char}
    (hDrop :
      ∀ (d : Char) (ds : List Char),
        cost cs ds ≤ cost cs (d :: ds) + 1)
    (c : Char)
    (ds : List Char) :
    cost (c :: cs) ds ≤ cost cs ds + 1 := by
  cases ds with
  | nil => rw [cost_to_nil, cost_to_nil, List.length_cons]
  | cons d ds =>
      by_cases hSame : c = d
      · rw [hSame, cost_same]
        exact hDrop d ds
      · rw [cost_of_ne hSame]
        omega

theorem cost_le_cost_cons
    (cs : List Char)
    (d : Char)
    (ds : List Char) :
    cost cs ds ≤ cost cs (d :: ds) + 1 := by
  induction cs generalizing d ds with
  | nil =>
      rw [cost_nil, cost_nil, List.length_cons]
      omega
  | cons c cs ih =>
      have hDrop := ih d ds
      have hMore := cost_cons_le_of_drop ih c ds
      by_cases hSame : c = d
      · rw [← hSame, cost_same]
        exact hMore
      · rw [cost_of_ne hSame]
        omega

theorem cost_cons_le
    (c : Char)
    (cs ds : List Char) :
    cost (c :: cs) ds ≤ cost cs ds + 1 :=
  cost_cons_le_of_drop (cost_le_cost_cons cs) c ds

theorem cost_le_cons_cost
    (c : Char)
    (cs ds : List Char) :
    cost cs ds ≤ cost (c :: cs) ds + 1 := by
  rw [cost_comm cs ds, cost_comm (c :: cs) ds]
  exact cost_le_cost_cons ds c cs

/- Another first character costs one edit at most. -/
theorem cost_substitute_le
    (c d : Char)
    (cs ds : List Char) :
    cost (c :: cs) ds ≤ cost (d :: cs) ds + 1 := by
  induction ds with
  | nil =>
      rw [cost_to_nil, cost_to_nil, List.length_cons, List.length_cons]
      omega
  | cons e ds ih =>
      have hDrop := cost_le_cost_cons cs e ds
      have hLess := cost_le_cons_cost d cs ds
      by_cases hFirst : c = e
      · rw [← hFirst, cost_same]
        by_cases hSecond : d = c
        · rw [hSecond, cost_same]
          omega
        · rw [cost_of_ne hSecond, hFirst]
          omega
      · rw [cost_of_ne hFirst]
        by_cases hSecond : d = e
        · rw [hSecond, cost_same]
          omega
        · rw [cost_of_ne hSecond]
          omega

/-
  What holds of two texts to be compared with any other holds
  of them behind a character, by induction on the other.
-/
theorem cost_cons_cons_le
    {cs ds : List Char}
    (hNear : ∀ es : List Char, cost cs es ≤ cost ds es + 1)
    (c : Char)
    (es : List Char) :
    cost (c :: cs) es ≤ cost (c :: ds) es + 1 := by
  induction es with
  | nil =>
      have hLength := hNear []
      rw [cost_to_nil, cost_to_nil] at hLength
      rw [cost_to_nil, cost_to_nil, List.length_cons, List.length_cons]
      omega
  | cons e es ih =>
      have hBoth := hNear es
      have hLeft := hNear (e :: es)
      by_cases hSame : c = e
      · rw [hSame, cost_same, cost_same]
        exact hBoth
      · rw [cost_of_ne hSame, cost_of_ne hSame]
        omega

/- One edit, wherever it is made, changes a cost by one at most. -/
theorem Edit.cost_le
    {cs ds : List Char}
    (hEdit : Edit cs ds)
    (es : List Char) :
    cost cs es ≤ cost ds es + 1 := by
  cases hEdit with
  | insert before after c =>
      induction before generalizing es with
      | nil => exact cost_le_cons_cost c after es
      | cons b before ih => exact cost_cons_cons_le ih b es
  | delete before after c =>
      induction before generalizing es with
      | nil => exact cost_cons_le c after es
      | cons b before ih => exact cost_cons_cons_le ih b es
  | substitute before after c d =>
      induction before generalizing es with
      | nil => exact cost_substitute_le c d after es
      | cons b before ih => exact cost_cons_cons_le ih b es

theorem cost_self
    (cs : List Char) :
    cost cs cs = 0 := by
  induction cs with
  | nil => rw [cost_nil, List.length_nil]
  | cons c cs ih => rw [cost_same, ih]

/- No sequence of edits is shorter than the cost. -/
theorem Edits.cost_le
    {n : Nat}
    {cs ds : List Char}
    (hEdits : Edits n cs ds) :
    cost cs ds ≤ n := by
  induction hEdits with
  | none cs => rw [cost_self]
  | @more n cs ds es hEdit _ ih =>
      have hStep := hEdit.cost_le es
      omega

------------------------------------------------------------
-- Rows
------------------------------------------------------------

/-
  The costs of a text and all longer beginnings of another,
  of which `done` has been read, in reverse.
-/
def costs
    (cs done : List Char) : List Char → List Nat
  | [] => []
  | d :: ds => cost cs (d :: done) :: costs cs (d :: done) ds

/- The row of the distance table for a text in reverse. -/
def costRow
    (target cs : List Char) : List Nat :=
  cost cs [] :: costs cs [] target

/- Each entry is computed from the three around it. -/
theorem distanceRow_costs
    (c : Char)
    (cs done ds : List Char) :
    distanceRow c (cost cs done) (cost (c :: cs) done) ds
        (costs cs done ds) =
      costs (c :: cs) done ds := by
  induction ds generalizing done with
  | nil => rfl
  | cons d ds ih =>
      have hHere :
          (if c = d then cost cs done
            else
              1 + min (cost cs done)
                (min (cost cs (d :: done)) (cost (c :: cs) done))) =
            cost (c :: cs) (d :: done) := by
        rw [cost]
      rw [costs, distanceRow, hHere, ih, costs]

theorem nextRow_costRow
    (target cs : List Char)
    (c : Char) :
    nextRow target (costRow target cs) c =
      costRow target (c :: cs) := by
  have hFirst : cost cs [] + 1 = cost (c :: cs) [] := by
    rw [cost_to_nil, cost_to_nil, List.length_cons]
  rw [costRow, nextRow, hFirst, distanceRow_costs, costRow]

/- So one row after the other is computed. -/
theorem foldl_nextRow
    (target source cs : List Char) :
    source.foldl (nextRow target) (costRow target cs) =
      costRow target (source.reverse ++ cs) := by
  induction source generalizing cs with
  | nil => rfl
  | cons c source ih =>
      rw [List.foldl_cons, nextRow_costRow, ih, List.reverse_cons,
        List.append_assoc]
      rfl

/- The first row counts the characters of the second text. -/
theorem costs_nil
    (done ds : List Char) :
    costs [] done ds = List.range' (done.length + 1) ds.length := by
  induction ds generalizing done with
  | nil => rfl
  | cons d ds ih =>
      rw [costs, ih, cost_nil, List.length_cons, List.length_cons,
        List.range'_succ]

theorem range_eq_costRow
    (target : List Char) :
    List.range (target.length + 1) = costRow target [] := by
  rw [costRow, costs_nil, cost_nil, List.range_eq_range',
    List.range'_succ]
  rfl

/- The last entry of a row is the one for all of the second text. -/
theorem getLastD_costs
    (cs done ds : List Char)
    (n : Nat) :
    (cost cs done :: costs cs done ds).getLastD n =
      cost cs (ds.reverse ++ done) := by
  induction ds generalizing done n with
  | nil => rfl
  | cons d ds ih =>
      rw [costs, List.getLastD_cons, ih, List.reverse_cons,
        List.append_assoc]
      rfl

theorem distance_eq_cost
    (source target : List Char) :
    distance source target = cost source.reverse target.reverse := by
  rw [distance, range_eq_costRow, foldl_nextRow, costRow,
    getLastD_costs, List.append_nil, List.append_nil]

/- The distance is reached by edits, and no fewer edits are enough. -/
theorem isLeast_distance
    (source target : List Char) :
    IsLeast {n | Edits n source target} (distance source target) := by
  rw [distance_eq_cost]
  constructor
  · have hReached :=
      (edits_cost source.reverse target.reverse).reverse
    rw [List.reverse_reverse, List.reverse_reverse] at hReached
    exact hReached
  · intro n hEdits
    exact hEdits.reverse.cost_le

theorem distance_comm
    (source target : List Char) :
    distance source target = distance target source := by
  rw [distance_eq_cost, distance_eq_cost, cost_comm]

theorem distance_triangle
    (first second third : List Char) :
    distance first third ≤
      distance first second + distance second third := by
  have hFirst := (isLeast_distance first second).1
  have hSecond := (isLeast_distance second third).1
  exact (isLeast_distance first third).2 (Edits.trans hFirst hSecond)

theorem distance_eq_zero_iff
    {source target : List Char} :
    distance source target = 0 ↔ source = target := by
  have hLeast := isLeast_distance source target
  constructor
  · intro hZero
    rw [hZero] at hLeast
    exact Edits.zero_iff.mp hLeast.1
  · intro hSame
    exact Nat.le_zero.mp (hLeast.2 (Edits.zero_iff.mpr hSame))

------------------------------------------------------------
-- Candidates
------------------------------------------------------------

/-
  A candidate at the least distance from a key, and the first
  of those that are.
-/
def IsFirstClosest
    (key : List Char)
    (candidates : List String)
    (best : String) : Prop :=
  ∃ before after,
    candidates = before ++ best :: after ∧
      (∀ other ∈ before,
        distance key best.toList < distance key other.toList) ∧
      ∀ other ∈ candidates,
        distance key best.toList ≤ distance key other.toList

namespace IsFirstClosest

variable {key : List Char} {candidates : List String}
variable {best first next : String}

theorem singleton
    (key : List Char)
    (best : String) :
    IsFirstClosest key [best] best := by
  refine ⟨[], [], rfl, List.forall_mem_nil _, ?_⟩
  intro other hOther
  rw [List.mem_singleton.mp hOther]

/- A candidate in front that is farther changes nothing. -/
theorem cons_of_lt
    (hBest : IsFirstClosest key candidates best)
    (hFarther :
      distance key best.toList < distance key first.toList) :
    IsFirstClosest key (first :: candidates) best := by
  rcases hBest with ⟨before, after, hSplit, hBefore, hAll⟩
  refine ⟨first :: before, after, ?_, ?_, ?_⟩
  · rw [hSplit, List.cons_append]
  · rw [List.forall_mem_cons]
    exact ⟨hFarther, hBefore⟩
  · rw [List.forall_mem_cons]
    exact ⟨Nat.le_of_lt hFarther, hAll⟩

/- Nor does one that comes second and is not closer than the first. -/
theorem insert_second
    (hBest : IsFirstClosest key (first :: candidates) best)
    (hFarther :
      distance key first.toList ≤ distance key next.toList) :
    IsFirstClosest key (first :: next :: candidates) best := by
  rcases hBest with ⟨before, after, hSplit, hBefore, hAll⟩
  rw [List.forall_mem_cons] at hAll
  have hNext := Nat.le_trans hAll.1 hFarther
  have hOthers :
      ∀ other ∈ first :: next :: candidates,
        distance key best.toList ≤ distance key other.toList := by
    rw [List.forall_mem_cons, List.forall_mem_cons]
    exact ⟨hAll.1, hNext, hAll.2⟩
  cases before with
  | nil =>
      rcases List.cons.inj hSplit with ⟨rfl, rfl⟩
      exact ⟨[], next :: candidates, rfl, hBefore, hOthers⟩
  | cons found before =>
      rcases List.cons.inj hSplit with ⟨rfl, rfl⟩
      refine ⟨first :: next :: before, after, rfl, ?_, hOthers⟩
      rw [List.forall_mem_cons] at hBefore
      rw [List.forall_mem_cons, List.forall_mem_cons]
      exact
        ⟨hBefore.1, Nat.lt_of_lt_of_le hBefore.1 hFarther, hBefore.2⟩

end IsFirstClosest

/- Keeping the better of two leaves the first of the closest. -/
theorem isFirstClosest_foldl_closer
    (key : List Char)
    (first : String)
    (candidates : List String) :
    IsFirstClosest key (first :: candidates)
      (candidates.foldl (closer key) first) := by
  induction candidates generalizing first with
  | nil => exact .singleton key first
  | cons next candidates ih =>
      rw [List.foldl_cons]
      by_cases hCloser :
          distance key next.toList < distance key first.toList
      · rw [closer, if_pos hCloser]
        rcases ih next with ⟨_, _, _, _, hAll⟩
        have hLe := hAll next List.mem_cons_self
        exact (ih next).cons_of_lt (Nat.lt_of_le_of_lt hLe hCloser)
      · rw [closer, if_neg hCloser]
        exact (ih first).insert_second (Nat.le_of_not_lt hCloser)

theorem closest_eq_none_iff
    {key : String}
    {candidates : List String} :
    closest key candidates = none ↔ key = "" ∨ candidates = [] := by
  cases candidates with
  | nil => simp [closest]
  | cons first candidates => simp [closest]

/- A suggestion is the first of the closest candidates. -/
theorem isFirstClosest_of_closest
    {key best : String}
    {candidates : List String}
    (hBest : closest key candidates = some best) :
    IsFirstClosest key.toList candidates best := by
  cases candidates with
  | nil => cases hBest
  | cons first candidates =>
      rw [closest] at hBest
      split at hBest
      · cases hBest
      · rcases Option.some.inj hBest with rfl
        exact isFirstClosest_foldl_closer key.toList first candidates

/- So it is one of the candidates. -/
theorem mem_of_closest
    {key best : String}
    {candidates : List String}
    (hBest : closest key candidates = some best) :
    best ∈ candidates := by
  rcases isFirstClosest_of_closest hBest with ⟨before, after, hSplit, _⟩
  rw [hSplit]
  exact List.mem_append_right before List.mem_cons_self

end Text

------------------------------------------------------------
-- Suggestions
------------------------------------------------------------

/-
  The distance of two texts is the least number of edits from
  one to the other, and so a metric. For a key and candidates
  the first of the candidates at the least distance is
  suggested, and nothing if there is no key or no candidate.
-/
theorem suggestions_take_fewest_edits :
    (∀ source target : String,
      IsLeast {n | Text.Edits n source.toList target.toList}
        (Text.distance source.toList target.toList)) ∧
      (∀ source target : String,
        Text.distance source.toList target.toList =
          Text.distance target.toList source.toList) ∧
      (∀ first second third : String,
        Text.distance first.toList third.toList ≤
          Text.distance first.toList second.toList +
            Text.distance second.toList third.toList) ∧
      (∀ source target : String,
        Text.distance source.toList target.toList = 0 ↔
          source = target) ∧
      (∀ (key : String) (candidates : List String),
        key ≠ "" → candidates ≠ [] →
          ∃ best,
            Text.closest key candidates = some best ∧
              Text.IsFirstClosest key.toList candidates best) ∧
      ∀ (key : String) (candidates : List String),
        Text.closest key candidates = none ↔
          key = "" ∨ candidates = [] := by
  refine ⟨?_, ?_, ?_, ?_, ?_, ?_⟩
  · intro source target
    exact Text.isLeast_distance source.toList target.toList
  · intro source target
    exact Text.distance_comm source.toList target.toList
  · intro first second third
    exact Text.distance_triangle first.toList second.toList third.toList
  · intro source target
    rw [Text.distance_eq_zero_iff, String.toList_inj]
  · intro key candidates hKey hCandidates
    have hSome : Text.closest key candidates ≠ none := by
      rw [Ne, Text.closest_eq_none_iff]
      exact fun hNone => hNone.elim hKey hCandidates
    rcases Option.ne_none_iff_exists'.mp hSome with ⟨best, hBest⟩
    exact ⟨best, hBest, Text.isFirstClosest_of_closest hBest⟩
  · intro key candidates
    exact Text.closest_eq_none_iff

/- Two candidates are one edit away, and the first is suggested. -/
theorem naive_suggested :
    Text.closest "naïve" ["native", "naive", "nave"] = some "naive" ∧
      Text.IsFirstClosest "naïve".toList ["native", "naive", "nave"]
        "naive" ∧
      IsLeast {n | Text.Edits n "naïve".toList "native".toList} 2 := by
  rcases suggestions_take_fewest_edits with
    ⟨hLeast, _, _, _, hSome, _⟩
  rcases hSome "naïve" ["native", "naive", "nave"]
    (by decide) (by decide) with ⟨best, hBest, hFirst⟩
  have hNaive :
      Text.closest "naïve" ["native", "naive", "nave"] =
        some "naive" := by
    decide
  rcases Option.some.inj (hNaive.symm.trans hBest) with rfl
  refine ⟨hNaive, hFirst, ?_⟩
  have hTwo :
      Text.distance "naïve".toList "native".toList = 2 := by
    decide
  rw [← hTwo]
  exact hLeast "naïve" "native"

end PolicyCheck
