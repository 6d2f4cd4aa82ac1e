import PolicyCheck.Data.Assoc

/-
  This file defines reachability in a finite graph. A graph
  binds each of its nodes to the list of its successors;
  edges may lead to nodes that are not bound, which have no
  successors. Cycles and self loops are allowed: the search
  keeps the nodes that it has seen and visits none twice.

  Key definitions include:
    * `Graph`
    * `Graph.successors`
    * `Graph.Visit`
    * `Graph.visit`
    * `Graph.reaches`
-/

namespace PolicyCheck

------------------------------------------------------------
-- Graphs
------------------------------------------------------------

/- A finite graph, as the successors of each bound node. -/
abbrev Graph (α : Type) :=
  Assoc α (List α)

namespace Graph

variable {α : Type} [DecidableEq α]

/- The successors of a node, none if it is not bound. -/
def successors
    (graph : Graph α)
    (node : α) : List α :=
  (graph.find? node).getD []

/-
  Excluding an element of the list that was not excluded
  before shortens the filtered list.
-/
theorem filter_notMem_cons_length_lt
    {xs seen : List α}
    {x : α}
    (hMem : x ∈ xs)
    (hNew : x ∉ seen) :
    (xs.filter (fun y => y ∉ x :: seen)).length <
      (xs.filter (fun y => y ∉ seen)).length := by
  have hEq :
      xs.filter (fun y => y ∉ x :: seen) =
        (xs.filter (fun y => y ∉ seen)).filter fun y => y ≠ x := by
    rw [List.filter_filter]
    apply List.filter_congr
    intro y _
    simp
  rw [hEq, List.length_filter_lt_length_iff_exists]
  refine ⟨x, List.mem_filter.mpr ⟨hMem, ?_⟩, by simp⟩
  exact decide_eq_true hNew

/- The bound nodes that have not been seen. -/
def unseen
    (graph : Graph α)
    (seen : List α) : List α :=
  graph.keys.filter (fun node => node ∉ seen)

/- When more is seen, no more is unseen. -/
theorem unseen_length_le
    (graph : Graph α)
    {seen after : List α}
    (hSub : seen ⊆ after) :
    (graph.unseen after).length ≤ (graph.unseen seen).length := by
  unfold unseen
  rw [← List.countP_eq_length_filter, ← List.countP_eq_length_filter]
  apply List.countP_mono_left
  intro node _ hNew
  rw [decide_eq_true_iff] at hNew ⊢
  exact fun hSeen => hNew (hSub hSeen)

------------------------------------------------------------
-- Search
------------------------------------------------------------

/-
  How a visit ends that starts with some nodes seen: whether
  the target was found, and which nodes are seen by then.
-/
structure Visit
    (seen : List α) where
  found : Bool
  after : List α
  grows : seen ⊆ after

/- A visit that was made after some others. -/
def Visit.later
    {seen middle : List α}
    (visit : Visit middle)
    (hSub : seen ⊆ middle) : Visit seen :=
  ⟨visit.found, visit.after, fun _ hSeen => visit.grows (hSub hSeen)⟩

mutual

/-
  Look for an edge into `target`, from a node or from what
  it leads to. A node that has been seen is not visited.
-/
def visit
    (graph : Graph α)
    (target : α)
    (seen : List α)
    (node : α) : Visit seen :=
  if node ∈ seen then
    ⟨false, seen, List.Subset.refl seen⟩
  else if node ∈ graph.keys then
    (visitAny graph target (node :: seen)
        (graph.successors node)).later
      (List.subset_cons_self node seen)
  else
    ⟨false, node :: seen, List.subset_cons_self node seen⟩
termination_by ((graph.unseen seen).length, 0)
decreasing_by
  rename_i hNew hBound
  exact Prod.Lex.left _ _ (filter_notMem_cons_length_lt hBound hNew)

/-
  Look for the target among some nodes, and behind each of
  them before the next one. All visits share what is seen.
-/
def visitAny
    (graph : Graph α)
    (target : α)
    (seen : List α) : List α → Visit seen
  | [] => ⟨false, seen, List.Subset.refl seen⟩
  | node :: rest =>
      if node = target then
        ⟨true, seen, List.Subset.refl seen⟩
      else
        let first := visit graph target seen node
        if first.found then first
        else
          (visitAny graph target first.after rest).later first.grows
termination_by nodes => ((graph.unseen seen).length, nodes.length)
decreasing_by
  · exact Prod.Lex.right _ (Nat.succ_pos _)
  · rcases Nat.lt_or_eq_of_le (unseen_length_le graph first.grows)
      with hLt | hEq
    · exact Prod.Lex.left _ _ hLt
    · rw [hEq]
      exact Prod.Lex.right _ (Nat.lt_succ_self _)

end

/-
  A node reaches another when a path of one or more edges
  leads from the first to the second.
-/
def reaches
    (graph : Graph α)
    (source target : α) : Bool :=
  (graph.visit target [] source).found

end Graph

end PolicyCheck
