import Mathlib.Logic.Relation
import PolicyCheck.Data.Reach
import PolicyCheck.Proofs.Assoc

/-
  The search of a finite graph decides reachability: it
  finds its target exactly when a path of one or more edges
  leads there. Cycles, self loops and edges to nodes that
  are not bound are all allowed. A search that fails leaves
  no edge of what it has seen for a path to go on.

  Main declarations:
    * `Graph.Edge`
    * `Graph.edge_mapValues_iff`
    * `Graph.path_of_visit`
    * `Graph.Closed`
    * `Graph.Visit.Closes`
    * `Graph.closes_of_visit`
    * `Graph.reaches_iff`
-/

------------------------------------------------------------
-- Edges
------------------------------------------------------------

namespace PolicyCheck

namespace Graph

variable {α : Type} [DecidableEq α]

/- An edge leads from the first node to the second. -/
def Edge
    (graph : Graph α)
    (source target : α) : Prop :=
  target ∈ graph.successors source

/- The edges of a graph that is kept as a table of declarations. -/
theorem edge_mapValues_iff
    {β : Type}
    {f : β → List α}
    {table : Assoc α β}
    {source target : α} :
    Edge (table.mapValues f) source target ↔
      ∃ info, table.find? source = some info ∧
        target ∈ f info := by
  unfold Edge successors
  rw [Assoc.find?_mapValues]
  cases hFound : Assoc.find? table source with
  | none => simp
  | some info => simp

------------------------------------------------------------
-- Visits
------------------------------------------------------------

variable {graph : Graph α} {target node : α} {seen nodes : List α}

/- A node that is not bound has no successors. -/
theorem successors_eq_nil
    (hUnbound : node ∉ graph.keys) :
    graph.successors node = [] := by
  rw [successors, Assoc.find?_eq_none_iff.mpr hUnbound]
  rfl

/- A node that has been seen is left at once. -/
theorem visit_of_mem
    (hSeen : node ∈ seen) :
    graph.visit target seen node =
      ⟨false, seen, List.Subset.refl seen⟩ := by
  rw [visit, if_pos hSeen]

/- A node that is not bound leads nowhere. -/
theorem visit_of_unbound
    (hNew : node ∉ seen)
    (hUnbound : node ∉ graph.keys) :
    graph.visit target seen node =
      ⟨false, node :: seen, List.subset_cons_self node seen⟩ := by
  rw [visit, if_neg hNew, if_neg hUnbound]

/- A bound node is seen, and then its successors are visited. -/
theorem visit_of_bound
    (hNew : node ∉ seen)
    (hBound : node ∈ graph.keys) :
    graph.visit target seen node =
      (graph.visitAny target (node :: seen)
          (graph.successors node)).later
        (List.subset_cons_self node seen) := by
  rw [visit, if_neg hNew, if_pos hBound]

/- The target is not looked for behind what comes after a find. -/
theorem visitAny_of_found
    (hOther : node ≠ target)
    (hFound : (graph.visit target seen node).found = true) :
    graph.visitAny target seen (node :: nodes) =
      graph.visit target seen node := by
  simp only [visitAny, if_neg hOther, if_pos hFound]

/- Other nodes come after one that the target is not behind. -/
theorem visitAny_of_missed
    (hOther : node ≠ target)
    (hMissed : ¬ (graph.visit target seen node).found = true) :
    graph.visitAny target seen (node :: nodes) =
      (graph.visitAny target
          (graph.visit target seen node).after nodes).later
        (graph.visit target seen node).grows := by
  simp only [visitAny, if_neg hOther, if_neg hMissed]

------------------------------------------------------------
-- Soundness
------------------------------------------------------------

/-
  What a visit finds is at the end of a path. The induction
  is on the visits themselves, of one node and of several.
-/
theorem path_of_visit
    (graph : Graph α)
    (target : α) :
    (∀ seen node, (graph.visit target seen node).found = true →
      Relation.TransGen graph.Edge node target) ∧
    ∀ seen nodes, (graph.visitAny target seen nodes).found = true →
      ∃ node ∈ nodes, Relation.ReflTransGen graph.Edge node target := by
  refine visit.mutual_induct graph target _ _ ?_ ?_ ?_ ?_ ?_ ?_ ?_
  · intro seen node hSeen hFound
    simp [visit_of_mem hSeen] at hFound
  · intro seen node hNew hBound ih hFound
    rw [visit_of_bound hNew hBound] at hFound
    rcases ih hFound with ⟨start, hStart, hPath⟩
    have hEdge : graph.Edge node start := hStart
    exact .head' hEdge hPath
  · intro seen node hNew hUnbound hFound
    simp [visit_of_unbound hNew hUnbound] at hFound
  · intro seen hFound
    simp [visitAny] at hFound
  · intro seen rest _
    exact ⟨target, List.mem_cons_self, .refl⟩
  · intro seen node rest _ _ hFound ih _
    exact ⟨node, List.mem_cons_self, (ih hFound).to_reflTransGen⟩
  · intro seen node rest hOther _ hMissed _ ih hFound
    rw [visitAny_of_missed hOther hMissed] at hFound
    rcases ih hFound with ⟨start, hStart, hPath⟩
    exact ⟨start, List.mem_cons_of_mem _ hStart, hPath⟩

------------------------------------------------------------
-- Completeness
------------------------------------------------------------

/-
  A search need not go back to a node: no edge of it leads
  to the target, and all lead to nodes that are seen.
-/
structure Closed
    (graph : Graph α)
    (target : α)
    (seen : List α)
    (node : α) : Prop where
  missed : target ∉ graph.successors node
  covered : graph.successors node ⊆ seen

/- It need not go back either when more nodes are seen. -/
theorem Closed.mono
    {after : List α}
    (hClosed : Closed graph target seen node)
    (hSub : seen ⊆ after) :
    Closed graph target after node :=
  ⟨hClosed.missed, fun _ hNext => hSub (hClosed.covered hNext)⟩

/- From nodes none of which is left open no path leads away. -/
theorem no_path_of_closed
    (hAll : ∀ node ∈ seen, Closed graph target seen node)
    (hNode : node ∈ seen) :
    ¬ Relation.TransGen graph.Edge node target := by
  intro hPath
  induction hPath using Relation.TransGen.head_induction_on with
  | single hEdge => exact (hAll _ hNode).missed hEdge
  | head hEdge _ ih => exact ih ((hAll _ hNode).covered hEdge)

/- A visit leaves none of the nodes open that it sees first. -/
def Visit.Closes
    (graph : Graph α)
    (target : α)
    (visit : Visit seen) : Prop :=
  ∀ node ∈ visit.after, node ∉ seen →
    Closed graph target visit.after node

/- A visit that sees nothing leaves nothing open. -/
theorem closes_of_after_eq
    {visit : Visit seen}
    (hSame : visit.after = seen) :
    visit.Closes graph target := by
  intro node hAfter hNew
  rw [hSame] at hAfter
  exact absurd hAfter hNew

/- A visit of a node, after those of its successors. -/
theorem Visit.Closes.of_successors
    {visit : Visit (node :: seen)}
    (hCloses : visit.Closes graph target)
    (hNode : Closed graph target visit.after node) :
    (visit.later (List.subset_cons_self node seen)).Closes graph
      target := by
  intro other hAfter hNew
  by_cases hSame : other = node
  · rw [hSame]
    exact hNode
  · exact hCloses other hAfter (by simp [hSame, hNew])

/- Two visits, one after the other. -/
theorem Visit.Closes.append
    {first : Visit seen}
    (hFirst : first.Closes graph target)
    {second : Visit first.after}
    (hSecond : second.Closes graph target) :
    (second.later first.grows).Closes graph target := by
  intro node hAfter hNew
  by_cases hOld : node ∈ first.after
  · exact (hFirst node hOld hNew).mono second.grows
  · exact hSecond node hAfter hOld

/-
  A visit that fails has seen its nodes and closes all that
  it sees. The induction is the one for soundness.
-/
theorem closes_of_visit
    (graph : Graph α)
    (target : α) :
    (∀ seen node, (graph.visit target seen node).found = false →
      node ∈ (graph.visit target seen node).after ∧
        (graph.visit target seen node).Closes graph target) ∧
    ∀ seen nodes, (graph.visitAny target seen nodes).found = false →
      target ∉ nodes ∧
        nodes ⊆ (graph.visitAny target seen nodes).after ∧
        (graph.visitAny target seen nodes).Closes graph target := by
  refine visit.mutual_induct graph target _ _ ?_ ?_ ?_ ?_ ?_ ?_ ?_
  · intro seen node hSeen _
    rw [visit_of_mem hSeen]
    exact ⟨hSeen, closes_of_after_eq rfl⟩
  · intro seen node hNew hBound ih hFailed
    rw [visit_of_bound hNew hBound] at hFailed ⊢
    rcases ih hFailed with ⟨hMissed, hCovered, hCloses⟩
    refine ⟨(graph.visitAny target _ _).grows List.mem_cons_self, ?_⟩
    exact hCloses.of_successors ⟨hMissed, hCovered⟩
  · intro seen node hNew hUnbound _
    have hClosed : Closed graph target (node :: seen) node := by
      constructor <;> simp [successors_eq_nil hUnbound]
    let stay : Visit (node :: seen) :=
      ⟨false, node :: seen, List.Subset.refl (node :: seen)⟩
    have hStay : stay.Closes graph target := closes_of_after_eq rfl
    rw [visit_of_unbound hNew hUnbound]
    exact ⟨List.mem_cons_self, hStay.of_successors hClosed⟩
  · intro seen _
    rw [visitAny]
    exact ⟨by simp, by simp, closes_of_after_eq rfl⟩
  · intro seen rest hFailed
    simp [visitAny] at hFailed
  · intro seen node rest hOther first hFound _ hFailed
    rw [visitAny_of_found hOther hFound, hFound] at hFailed
    cases hFailed
  · intro seen node rest hOther first hMissed ihFirst ihRest hFailed
    rw [visitAny_of_missed hOther hMissed] at hFailed ⊢
    rcases ihFirst (Bool.eq_false_iff.mpr hMissed) with
      ⟨hNode, hFirst⟩
    rcases ihRest hFailed with ⟨hTarget, hRest, hSecond⟩
    refine ⟨?_, ?_, hFirst.append hSecond⟩
    · simp [hTarget, Ne.symm hOther]
    · exact
        List.cons_subset.mpr
          ⟨(graph.visitAny target _ rest).grows hNode, hRest⟩

------------------------------------------------------------
-- Reachability
------------------------------------------------------------

/- A node reaches another exactly when a path leads there. -/
theorem reaches_iff
    {graph : Graph α}
    {source target : α} :
    graph.reaches source target = true ↔
      Relation.TransGen graph.Edge source target := by
  constructor
  · exact (path_of_visit graph target).1 [] source
  · intro hPath
    cases hReaches : graph.reaches source target with
    | true => rfl
    | false =>
        rcases (closes_of_visit graph target).1 [] source hReaches with
          ⟨hSource, hCloses⟩
        have hAll :
            ∀ node ∈ (graph.visit target [] source).after,
              Closed graph target
                (graph.visit target [] source).after node :=
          fun node hAfter => hCloses node hAfter List.not_mem_nil
        exact absurd hPath (no_path_of_closed hAll hSource)

end Graph

end PolicyCheck
