import Mathlib.Data.List.Basic
import Mathlib.Data.List.Induction
import PolicyCheck.Proofs.Verdicts

/-
  The walk over the subexpressions of an expression. It
  keeps the expressions that are still to be visited on a
  stack, among them the parts of many others that it is in
  the middle of. Still it is the recursive walk: a stack is
  visited one expression after the other, and each of them
  with all that stands in it, before the next one. So every
  place of an expression is visited once.

  Main declarations:
    * `Expr.preorder`
    * `Expr.preorder_eq`
    * `Expr.visit_append`
    * `Expr.subexpressions_eq`
    * `Expr.subexpressions_eq_preorder`
    * `Expr.visit_eq_flatMap_preorder`
    * `Expr.mem_subexpressions_iff`
    * `Expr.at?`
    * `Expr.Path.Before`
    * `Expr.Enumerates`
    * `Expr.exists_enumerates`
-/

namespace PolicyCheck

namespace Expr

------------------------------------------------------------
-- The Recursive Walk
------------------------------------------------------------

mutual

/-
  An expression and all that stands in it, each expression
  before its parts and the last part first.
-/
def preorder : Expr → List Expr
  | .lit value => [.lit value]
  | .var name => [.var name]
  | .ite test yes no =>
      .ite test yes no ::
        (preorder no ++ preorder yes ++ preorder test)
  | .and left right =>
      .and left right :: (preorder right ++ preorder left)
  | .or left right =>
      .or left right :: (preorder right ++ preorder left)
  | .unary op arg => .unary op arg :: preorder arg
  | .binary op left right =>
      .binary op left right :: (preorder right ++ preorder left)
  | .call function args => .call function args :: preorderList args
  | .getAttr base attr => .getAttr base attr :: preorder base
  | .hasAttr base attr => .hasAttr base attr :: preorder base
  | .like arg pattern => .like arg pattern :: preorder arg
  | .is arg type => .is arg type :: preorder arg
  | .isIn arg type group =>
      .isIn arg type group :: (preorder group ++ preorder arg)
  | .set elements => .set elements :: preorderList elements
  | .record fields => .record fields :: preorderFields fields

/- All that stands in the expressions of a list, the last one first. -/
def preorderList : List Expr → List Expr
  | [] => []
  | e :: es => preorderList es ++ preorder e

/- All that stands in the fields of a record, the last one first. -/
def preorderFields : List (String × Expr) → List Expr
  | [] => []
  | (_, e) :: rest => preorderFields rest ++ preorder e

end

/- A list is walked through from its end. -/
theorem preorderList_eq
    (es : List Expr) :
    preorderList es = es.reverse.flatMap preorder := by
  induction es with
  | nil => simp [preorderList]
  | cons e es ih => simp [preorderList, ih]

/- So are the fields of a record. -/
theorem preorderFields_eq
    (fields : List (String × Expr)) :
    preorderFields fields =
      (fields.map Prod.snd).reverse.flatMap preorder := by
  induction fields with
  | nil => simp [preorderFields]
  | cons field rest ih => simp [preorderFields, ih]

/- What is walked through after an expression are its parts. -/
theorem preorder_eq
    (e : Expr) :
    preorder e = e :: e.children.reverse.flatMap preorder := by
  cases e <;>
    simp [preorder, children, preorderList_eq, preorderFields_eq]

------------------------------------------------------------
-- The Walk With A Stack
------------------------------------------------------------

/- What is lower on the stack waits for all that is above it. -/
theorem visit_append
    (above below : List Expr) :
    visit (above ++ below) = visit above ++ visit below := by
  fun_induction visit above with
  | case1 => rfl
  | case2 e above ih =>
      rw [List.cons_append, visit, ← List.append_assoc, ih,
        List.cons_append]

/- A stack is visited one expression after the other. -/
theorem visit_eq_flatMap
    (stack : List Expr) :
    visit stack = stack.flatMap subexpressions := by
  induction stack with
  | nil => simp [visit]
  | cons e stack ih =>
      rw [List.flatMap_cons, subexpressions, ← ih, ← visit_append]
      rfl

/-
  The subexpressions of an expression are itself and those
  of its parts, the last part first.
-/
theorem subexpressions_eq
    (e : Expr) :
    e.subexpressions =
      e :: e.children.reverse.flatMap subexpressions := by
  rw [subexpressions, visit, List.append_nil, visit_eq_flatMap]

/- The walk with a stack is the recursive one. -/
theorem subexpressions_eq_preorder
    (e : Expr) :
    e.subexpressions = e.preorder := by
  induction e using parts_induction with
  | hStep e ih =>
      rw [subexpressions_eq, preorder_eq]
      congr 1
      apply List.flatMap_congr
      intro part hPart
      exact ih part (List.mem_reverse.mp hPart)

/- From every stack on the walk is the recursive one. -/
theorem visit_eq_flatMap_preorder
    (stack : List Expr) :
    visit stack = stack.flatMap preorder := by
  rw [visit_eq_flatMap]
  apply List.flatMap_congr
  intro e _
  exact e.subexpressions_eq_preorder

/- The walk gets to everything that stands in an expression. -/
theorem Occurs.mem_subexpressions
    {e whole : Expr}
    (hOccurs : e.Occurs whole) :
    e ∈ whole.subexpressions := by
  induction hOccurs with
  | refl =>
      rw [subexpressions_eq]
      exact List.mem_cons_self
  | tail _ hPart ih =>
      rw [subexpressions_eq]
      apply List.mem_cons_of_mem
      rw [List.mem_flatMap]
      exact ⟨_, List.mem_reverse.mpr (isPart_iff.mp hPart), ih⟩

/- It gets to nothing else. -/
theorem mem_subexpressions_iff
    {e whole : Expr} :
    e ∈ whole.subexpressions ↔ e.Occurs whole := by
  constructor
  · intro hMem
    induction whole using parts_induction with
    | hStep whole ih =>
        rw [subexpressions_eq] at hMem
        rcases List.mem_cons.mp hMem with rfl | hBelow
        · exact .refl
        · rcases List.mem_flatMap.mp hBelow with
            ⟨part, hPart, hWithin⟩
          rw [List.mem_reverse] at hPart
          exact (ih part hPart hWithin).tail (isPart_iff.mpr hPart)
  · exact Occurs.mem_subexpressions

------------------------------------------------------------
-- Places
------------------------------------------------------------

/-
  A way from an expression to one that stands in it: the
  index of a part, of a part of that part, and so on.
-/
abbrev Path :=
  List Nat

/- The expression that a path leads to, if it leads somewhere. -/
def at?
    (e : Expr) : Path → Option Expr
  | [] => some e
  | index :: path =>
      e.children[index]?.bind fun part => part.at? path

/- The same for a path that begins in a list of expressions. -/
def listAt?
    (es : List Expr) : Path → Option Expr
  | [] => none
  | index :: path => es[index]?.bind fun e => e.at? path

/-
  The order in which places are visited: an expression
  before all that stands in it, and a part before all that
  stands in earlier ones.
-/
inductive Path.Before : Path → Path → Prop where
  | whole {index path} : Before [] (index :: path)
  | later {index other path rest} (hLt : other < index) :
      Before (index :: path) (other :: rest)
  | within {index path rest} (hBefore : Before path rest) :
      Before (index :: path) (index :: rest)

/- No place is visited before itself. -/
theorem Path.Before.ne
    {path other : Path}
    (hBefore : path.Before other) :
    path ≠ other := by
  induction hBefore with
  | whole => simp
  | later hLt =>
      intro hSame
      exact Nat.ne_of_gt hLt (List.cons.inj hSame).1
  | within _ ih =>
      intro hSame
      exact ih (List.cons.inj hSame).2

/-
  Some paths are all that lead somewhere, in the order of
  places, and what they lead to is what was visited.
-/
structure Enumerates
    (find? : Path → Option Expr)
    (paths : List Path)
    (visited : List Expr) : Prop where
  found : paths.map find? = visited.map some
  mem_iff : ∀ path, path ∈ paths ↔ (find? path).isSome = true
  ordered : paths.Pairwise Path.Before

/- Nothing is visited twice. -/
theorem Enumerates.nodup
    {find? : Path → Option Expr}
    {paths : List Path}
    {visited : List Expr}
    (hAll : Enumerates find? paths visited) :
    paths.Nodup :=
  hAll.ordered.imp Path.Before.ne

/- A path that leads somewhere in a list has an index in it. -/
theorem exists_of_listAt?
    {es : List Expr}
    {path : Path}
    (hSome : (listAt? es path).isSome = true) :
    ∃ index rest, path = index :: rest ∧ index < es.length := by
  cases path with
  | nil => cases hSome
  | cons index rest =>
      refine ⟨index, rest, rfl, ?_⟩
      by_contra hBeyond
      rw [listAt?, List.getElem?_eq_none (Nat.le_of_not_lt hBeyond)]
        at hSome
      cases hSome

/- Within a list its paths lead where they did before. -/
theorem listAt?_append
    {es : List Expr}
    {index : Nat}
    (hLt : index < es.length)
    (others : List Expr)
    (rest : Path) :
    listAt? (es ++ others) (index :: rest) =
      listAt? es (index :: rest) := by
  rw [listAt?, listAt?, List.getElem?_append_left hLt]

/- The paths through the last expression of a list. -/
theorem listAt?_concat
    (es : List Expr)
    (e : Expr)
    (rest : Path) :
    listAt? (es ++ [e]) (es.length :: rest) = e.at? rest := by
  simp [listAt?]

/-
  What is visited from the end of a list on are the places
  of its last expression, then those of the others.
-/
theorem Enumerates.concat
    {es : List Expr}
    {e : Expr}
    {paths inner : List Path}
    {visited within : List Expr}
    (hRest : Enumerates (listAt? es) paths visited)
    (hLast : Enumerates e.at? inner within) :
    Enumerates (listAt? (es ++ [e]))
      (inner.map (es.length :: ·) ++ paths)
      (within ++ visited) where
  found := by
    rw [List.map_append, List.map_append, List.map_map,
      ← hLast.found, ← hRest.found]
    congr 1
    · apply List.map_congr_left
      intro path _
      exact listAt?_concat es e path
    · apply List.map_congr_left
      intro path hPath
      rcases exists_of_listAt? ((hRest.mem_iff path).mp hPath) with
        ⟨index, rest, rfl, hLt⟩
      exact listAt?_append hLt [e] rest
  mem_iff := by
    intro path
    rw [List.mem_append, List.mem_map, hRest.mem_iff]
    constructor
    · intro hEither
      rcases hEither with ⟨rest, hInner, rfl⟩ | hSome
      · rw [listAt?_concat]
        exact (hLast.mem_iff rest).mp hInner
      · rcases exists_of_listAt? hSome with ⟨index, rest, rfl, hLt⟩
        rw [listAt?_append hLt]
        exact hSome
    · intro hSome
      rcases exists_of_listAt? hSome with ⟨index, rest, rfl, hLt⟩
      rw [List.length_append, List.length_singleton] at hLt
      rcases Nat.lt_succ_iff_lt_or_eq.mp hLt with hBelow | rfl
      · rw [listAt?_append hBelow] at hSome
        exact Or.inr hSome
      · rw [listAt?_concat] at hSome
        exact Or.inl ⟨rest, (hLast.mem_iff rest).mpr hSome, rfl⟩
  ordered := by
    rw [List.pairwise_append, List.pairwise_map]
    refine ⟨hLast.ordered.imp .within, hRest.ordered, ?_⟩
    intro path hInner other hOther
    rcases List.mem_map.mp hInner with ⟨rest, _, rfl⟩
    rcases exists_of_listAt? ((hRest.mem_iff other).mp hOther) with
      ⟨index, tail, rfl, hLt⟩
    exact .later hLt

/- The places of a list, if those of its members are enumerated. -/
theorem exists_enumerates_list
    (es : List Expr)
    (hEach :
      ∀ e ∈ es, ∃ paths, Enumerates e.at? paths e.subexpressions) :
    ∃ paths,
      Enumerates (listAt? es) paths
        (es.reverse.flatMap subexpressions) := by
  induction es using List.reverseRecOn with
  | nil =>
      refine ⟨[], rfl, ?_, List.Pairwise.nil⟩
      intro path
      cases path <;> simp [listAt?]
  | append_singleton es e ih =>
      have hOthers :
          ∀ other ∈ es,
            ∃ paths, Enumerates other.at? paths
              other.subexpressions := by
        intro other hMem
        exact hEach other (List.mem_append_left _ hMem)
      rcases ih hOthers with ⟨paths, hPaths⟩
      rcases hEach e (by simp) with ⟨inner, hInner⟩
      refine ⟨inner.map (es.length :: ·) ++ paths, ?_⟩
      rw [List.reverse_concat, List.flatMap_cons]
      exact hPaths.concat hInner

/- Every place of an expression is visited, and none twice. -/
theorem exists_enumerates
    (e : Expr) :
    ∃ paths, Enumerates e.at? paths e.subexpressions := by
  induction e using parts_induction with
  | hStep e ih =>
      rcases exists_enumerates_list e.children ih with
        ⟨paths, hPaths⟩
      have hBelow :
          ∀ path ∈ paths, e.at? path = listAt? e.children path := by
        intro path hPath
        rcases exists_of_listAt? ((hPaths.mem_iff path).mp hPath)
          with ⟨index, rest, rfl, _⟩
        rfl
      -- The empty path leads to the whole, the others into a part.
      rw [subexpressions_eq]
      refine ⟨[] :: paths, ?_, ?_, ?_⟩
      · rw [List.map_cons, List.map_cons, ← hPaths.found,
          List.map_congr_left hBelow]
        rfl
      · intro path
        cases path with
        | nil => simp [at?]
        | cons index rest =>
            simpa [at?, listAt?] using hPaths.mem_iff (index :: rest)
      · refine List.pairwise_cons.mpr ⟨?_, hPaths.ordered⟩
        intro path hPath
        rcases exists_of_listAt? ((hPaths.mem_iff path).mp hPath)
          with ⟨index, rest, rfl, _⟩
        exact .whole

end Expr

end PolicyCheck
