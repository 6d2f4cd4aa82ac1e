import PolicyCheck.Proofs.Verdicts

/-
  Which issues the conditions of a policy can have. All of
  them come from a few local checks, so what holds of every
  issue of those holds of every issue of a condition. In
  particular conditions are never called impossible here.

  Main declarations:
    * `Checker.checkConditions_eq_limitOnce`
    * `Checker.FindsElsewhere`
    * `Checker.FindsElsewhere.verdict`
    * `Checker.Finds`
    * `Checker.Finds.verdict`
    * `Checker.finds_of_plain`
    * `Checker.Emits`
    * `Checker.Emits.check`
    * `Checker.Emits.checkConditions`
    * `Checker.emits_of_plain`
    * `Checker.checkConditions_possible`
-/

namespace PolicyCheck

------------------------------------------------------------
-- Kinds Of Issues
------------------------------------------------------------

namespace Issue

/- The issue is that attribute accesses are nested too deep. -/
def isLevelExceeded : Issue → Bool
  | .levelExceeded _ _ => true
  | _ => false

/- The issue is that expressions are nested too deep. -/
def isRecursionLimit : Issue → Bool
  | .recursionLimit => true
  | _ => false

/-
  The issue neither calls a policy impossible nor is on how
  deep something is nested.
-/
def isPlain
    (issue : Issue) : Bool :=
  !issue.isImpossible && !issue.isLevelExceeded &&
    !issue.isRecursionLimit

theorem isPlain_iff
    {issue : Issue} :
    issue.isPlain = true ↔
      issue.isImpossible = false ∧
        issue.isLevelExceeded = false ∧
        issue.isRecursionLimit = false := by
  simp [isPlain, and_assoc]

/- The issue is on what an attribute is looked for in. -/
def isOnAccess : Issue → Bool
  | .unsafeAccess _ _ => true
  | .undeclaredTypeAccess _ _ => true
  | .accessOnNonRecord _ _ => true
  | _ => false

/- The issue is on the arguments of a call. -/
def isOnCall : Issue → Bool
  | .unexpectedType _ _ _ => true
  | .wrongArgumentCount _ _ _ => true
  | .invalidLiteral _ _ _ => true
  | _ => false

/- The issue is plain, and not on an attribute access. -/
def isElsewhere
    (issue : Issue) : Bool :=
  issue.isPlain && !issue.isOnAccess

theorem isElsewhere_iff
    {issue : Issue} :
    issue.isElsewhere = true ↔
      issue.isPlain = true ∧ issue.isOnAccess = false := by
  simp [isElsewhere]

theorem isElsewhere_of_isOnCall
    {issue : Issue}
    (hCall : issue.isOnCall = true) :
    issue.isElsewhere = true := by
  cases issue with
  | unexpectedType expected actual hint => rfl
  | wrongArgumentCount function expected actual => rfl
  | invalidLiteral kind literal reason => rfl
  | _ => cases hCall

theorem isPlain_of_isOnAccess
    {issue : Issue}
    (hAccess : issue.isOnAccess = true) :
    issue.isPlain = true := by
  cases issue with
  | unsafeAccess access suggestion => rfl
  | undeclaredTypeAccess type attr => rfl
  | accessOnNonRecord attr actual => rfl
  | _ => cases hAccess

end Issue

namespace Checker

/- Issues in which too deep a nesting is reported only once. -/
def limitOnce : List Issue → List Issue
  | [] => []
  | issue :: rest =>
      if issue = .recursionLimit then
        issue :: rest.filter (· ≠ .recursionLimit)
      else
        issue :: limitOnce rest

/-
  To look each time whether a limit was reported, and to
  leave out all but the first, come to the same.
-/
theorem foldl_report_eq
    (issues reported : List Issue) :
    issues.foldl report reported =
      reported ++
        if .recursionLimit ∈ reported then
          issues.filter (· ≠ .recursionLimit)
        else limitOnce issues := by
  induction issues generalizing reported with
  | nil => simp [limitOnce]
  | cons issue rest ih =>
      rw [List.foldl_cons, ih, report, limitOnce]
      by_cases hLimit : issue = .recursionLimit
      · by_cases hReported : .recursionLimit ∈ reported
        · simp [hLimit, hReported]
        · simp [hLimit, hReported]
      · by_cases hReported : .recursionLimit ∈ reported
        · simp [hLimit, Ne.symm hLimit, hReported]
        · simp [hLimit, Ne.symm hLimit, hReported]

/- So of conditions every issue is reported, but one limit only. -/
theorem checkConditions_eq_limitOnce
    (checker : Checker)
    (conditions : List Clause) :
    checker.checkConditions conditions =
      limitOnce (checker.checkClauses 0 conditions) := by
  rw [checkConditions, foldl_report_eq]
  simp

/- Reporting a limit only once adds nothing. -/
theorem mem_of_mem_limitOnce
    {issues : List Issue}
    {issue : Issue}
    (hMem : issue ∈ limitOnce issues) :
    issue ∈ issues := by
  induction issues with
  | nil => simp [limitOnce] at hMem
  | cons first rest ih =>
      unfold limitOnce at hMem
      split at hMem
      · rcases List.mem_cons.mp hMem with rfl | hRest
        · exact List.mem_cons_self
        · exact List.mem_cons_of_mem _ (List.mem_filter.mp hRest).1
      · rcases List.mem_cons.mp hMem with rfl | hRest
        · exact List.mem_cons_self
        · exact List.mem_cons_of_mem _ (ih hRest)

/- Reporting a nesting only once changes no other issue. -/
theorem filter_limitOnce_of_not
    {chosen : Issue → Bool}
    (hLimit : chosen .recursionLimit = false)
    (issues : List Issue) :
    (limitOnce issues).filter chosen = issues.filter chosen := by
  induction issues with
  | nil => rfl
  | cons issue rest ih =>
      unfold limitOnce
      split
      · rename_i hSame
        rw [hSame, List.filter_cons_of_neg (by simp [hLimit]),
          List.filter_cons_of_neg (by simp [hLimit]),
          List.filter_filter]
        apply List.filter_congr
        intro other _
        by_cases hOther : other = .recursionLimit
        · simp [hOther, hLimit]
        · simp [hOther]
      · rw [List.filter_cons, List.filter_cons, ih]

/- A nesting that is chosen is still reported only once. -/
theorem filter_limitOnce_of_chosen
    {chosen : Issue → Bool}
    (hLimit : chosen .recursionLimit = true)
    (issues : List Issue) :
    (limitOnce issues).filter chosen =
      limitOnce (issues.filter chosen) := by
  induction issues with
  | nil => rfl
  | cons issue rest ih =>
      by_cases hSame : issue = .recursionLimit
      · rw [hSame, List.filter_cons_of_pos hLimit]
        simp only [limitOnce, if_true]
        rw [List.filter_cons_of_pos hLimit, List.filter_filter,
          List.filter_filter]
        congr 1
        apply List.filter_congr
        intro other _
        rw [Bool.and_comm]
      · cases hChosen : chosen issue with
        | true => simp [limitOnce, hSame, hChosen, ih]
        | false => simp [limitOnce, hSame, hChosen, ih]

------------------------------------------------------------
-- Local Checks
------------------------------------------------------------

/-
  All issues that a checker finds with an expression itself,
  wherever it stands and without looking into its parts,
  have a property, unless it is an attribute access.
-/
structure FindsElsewhere
    (checker : Checker)
    (P : Issue → Prop) : Prop where
  literal :
    ∀ value, ∀ issue ∈ (checker.checkLiteral value).2, P issue
  call :
    ∀ function args types,
      ∀ issue ∈ (checkCall function args types).2, P issue
  unexpected :
    ∀ expected actual hint,
      P (.unexpectedType expected actual hint)
  operand :
    ∀ requirement actual, P (.invalidOperand requirement actual)
  incompatible :
    ∀ types hint comparison,
      P (.incompatibleTypes types hint comparison)

/- So have those that it finds with attribute accesses. -/
structure Finds
    (checker : Checker)
    (P : Issue → Prop) : Prop extends checker.FindsElsewhere P where
  access :
    ∀ base attr ty,
      ∀ issue ∈ (checker.accessAttr base attr ty).2, P issue

namespace FindsElsewhere

variable {checker : Checker} {P : Issue → Prop}

------------------------------------------------------------
-- Operands
------------------------------------------------------------

/- An operand that does not meet a demand is the only issue. -/
theorem require
    (hFinds : checker.FindsElsewhere P)
    (requirement : OperandRequirement)
    (satisfied : Bool)
    (actual : Ty) :
    ∀ issue ∈ Operand.require requirement satisfied actual,
      P issue := by
  intro issue hIssue
  unfold Operand.require at hIssue
  split at hIssue
  · simp at hIssue
  · rw [List.mem_singleton.mp hIssue]
    exact hFinds.operand requirement actual

/- Elements that are not compatible are the only issue. -/
theorem joinElements
    (hFinds : checker.FindsElsewhere P)
    (sofar : Ty)
    (types : List Ty) :
    ∀ issue ∈ (Operand.joinElements sofar types).2, P issue := by
  induction types generalizing sofar with
  | nil => simp [Operand.joinElements]
  | cons ty rest ih =>
      intro issue hIssue
      simp only [Operand.joinElements, List.mem_append] at hIssue
      rcases hIssue with hHere | hRest
      · split at hHere
        · simp at hHere
        · rw [List.mem_singleton.mp hHere]
          exact hFinds.incompatible _ _ _
      · exact ih (Ty.unify sofar ty) issue hRest

/- The issues with the elements of a set literal. -/
theorem setLiteral
    (hFinds : checker.FindsElsewhere P)
    (types : List Ty) :
    ∀ issue ∈ (Operand.setLiteral types).2, P issue := by
  cases types with
  | nil => simp [Operand.setLiteral]
  | cons first rest => exact hFinds.joinElements first rest

/- The issues with the operand of an operator. -/
theorem unary
    (hFinds : checker.FindsElsewhere P)
    (op : UnaryOp)
    (ty : Ty) :
    ∀ issue ∈ (op.check ty).2, P issue := by
  cases op with
  | not => exact hFinds.require _ _ _
  | neg => exact hFinds.require _ _ _
  | isEmpty => exact hFinds.require _ _ _

/- The issues with types that have to be equal in some case. -/
theorem equality
    (hFinds : checker.FindsElsewhere P)
    (schema : Schema)
    (a b : Ty) :
    ∀ issue ∈ schema.equalityIssues a b, P issue := by
  intro issue hIssue
  unfold Schema.equalityIssues at hIssue
  split at hIssue
  · rw [List.mem_singleton.mp hIssue]
    exact hFinds.incompatible _ _ _
  · split at hIssue
    · split at hIssue
      · rw [List.mem_singleton.mp hIssue]
        exact hFinds.incompatible _ _ _
      · simp at hIssue
    · simp at hIssue

/- The issues with operands that have to be ordered alike. -/
theorem ordered
    (hFinds : checker.FindsElsewhere P)
    (a b : Ty) :
    ∀ issue ∈ Operand.ordered a b, P issue := by
  intro issue hIssue
  simp only [Operand.ordered, List.mem_append] at hIssue
  rcases hIssue with (hLeft | hRight) | hBoth
  · exact hFinds.require _ _ _ issue hLeft
  · exact hFinds.require _ _ _ issue hRight
  · exact hFinds.require _ _ _ issue hBoth

/- The issues with two demands on operands. -/
theorem require_both
    (hFinds : checker.FindsElsewhere P)
    {first second : OperandRequirement}
    {firstOk secondOk : Bool}
    {a b : Ty} :
    ∀ issue ∈ Operand.require first firstOk a ++
        Operand.require second secondOk b,
      P issue := by
  intro issue hIssue
  rcases List.mem_append.mp hIssue with hLeft | hRight
  · exact hFinds.require _ _ _ issue hLeft
  · exact hFinds.require _ _ _ issue hRight

/- The issue with a value that could not be in a set. -/
theorem element
    (hFinds : checker.FindsElsewhere P)
    (set ty : Ty) :
    ∀ issue ∈ Operand.element set ty, P issue := by
  intro issue hIssue
  unfold Operand.element at hIssue
  split at hIssue
  · split at hIssue
    · simp at hIssue
    · rw [List.mem_singleton.mp hIssue]
      exact hFinds.incompatible _ _ _
  · simp at hIssue

/- The issues with two sets that are compared. -/
theorem sets
    (hFinds : checker.FindsElsewhere P)
    (a b : Ty) :
    ∀ issue ∈ Operand.sets a b, P issue := by
  intro issue hIssue
  unfold Operand.sets at hIssue
  rcases List.mem_append.mp hIssue with hKinds | hElements
  · exact hFinds.require_both issue hKinds
  · unfold Operand.elements at hElements
    split at hElements
    · split at hElements
      · simp at hElements
      · rw [List.mem_singleton.mp hElements]
        exact hFinds.incompatible _ _ _
    · simp at hElements

/- The issues with the operands of an operator. -/
theorem binary
    (hFinds : checker.FindsElsewhere P)
    (schema : Schema)
    (op : BinaryOp)
    (a b : Ty) :
    ∀ issue ∈ (schema.checkBinary op a b).2, P issue := by
  cases op with
  | eq => exact hFinds.equality schema a b
  | notEq => exact hFinds.equality schema a b
  | less => exact hFinds.ordered a b
  | lessEq => exact hFinds.ordered a b
  | greater => exact hFinds.ordered a b
  | greaterEq => exact hFinds.ordered a b
  | add => exact hFinds.require_both
  | sub => exact hFinds.require_both
  | mul => exact hFinds.require_both
  | mem => exact hFinds.require_both
  | contains =>
      intro issue hIssue
      rcases List.mem_append.mp hIssue with hKind | hElement
      · exact hFinds.require _ _ _ issue hKind
      · exact hFinds.element a b issue hElement
  | containsAll => exact hFinds.sets a b
  | containsAny => exact hFinds.sets a b
  | getTag => exact hFinds.require_both
  | hasTag => exact hFinds.require_both

------------------------------------------------------------
-- Expressions
------------------------------------------------------------

/- The issues in the verdict on an expression that is no access. -/
theorem verdict
    (hFinds : checker.FindsElsewhere P)
    {e : Expr}
    (hOther : e.isAccess = false)
    (types : List Ty) :
    (∀ issue ∈ (checker.verdict e types).first, P issue) ∧
      ∀ issue ∈ (checker.verdict e types).last, P issue := by
  cases e with
  | lit value =>
      exact ⟨by simp [Checker.verdict], hFinds.literal value⟩
  | var name => simp [Checker.verdict]
  | ite test yes no =>
      refine ⟨?_, by simp [Checker.verdict]⟩
      intro issue hIssue
      simp only [Checker.verdict] at hIssue
      split at hIssue
      · cases hIssue
      · rw [List.mem_singleton.mp hIssue]
        exact hFinds.unexpected _ _ _
  | and left right =>
      exact ⟨hFinds.require _ _ _, hFinds.require _ _ _⟩
  | or left right =>
      exact ⟨hFinds.require _ _ _, hFinds.require _ _ _⟩
  | unary op arg =>
      exact ⟨by simp [Checker.verdict], hFinds.unary op _⟩
  | binary op left right =>
      exact ⟨by simp [Checker.verdict], hFinds.binary _ op _ _⟩
  | call function args =>
      exact ⟨by simp [Checker.verdict], hFinds.call function args _⟩
  | getAttr base attr => cases hOther
  | hasAttr base attr =>
      exact ⟨by simp [Checker.verdict], hFinds.require _ _ _⟩
  | like arg pattern =>
      exact ⟨by simp [Checker.verdict], hFinds.require _ _ _⟩
  | is arg type =>
      exact ⟨by simp [Checker.verdict], hFinds.require _ _ _⟩
  | isIn arg type group =>
      exact ⟨hFinds.require _ _ _, hFinds.require _ _ _⟩
  | set elements =>
      exact ⟨by simp [Checker.verdict], hFinds.setLiteral _⟩
  | record fields => simp [Checker.verdict]

/- The issue with a condition that is no truth value. -/
theorem conditionIssues
    (hFinds : checker.FindsElsewhere P)
    (ty : Ty) :
    ∀ issue ∈ Checker.conditionIssues ty, P issue := by
  intro issue hIssue
  unfold Checker.conditionIssues at hIssue
  split at hIssue
  · simp at hIssue
  · simp at hIssue
  · rw [List.mem_singleton.mp hIssue]
    exact hFinds.unexpected _ _ _
  · rw [List.mem_singleton.mp hIssue]
    exact hFinds.unexpected _ _ _

end FindsElsewhere

/- The issues in the verdict on an expression. -/
theorem Finds.verdict
    {checker : Checker}
    {P : Issue → Prop}
    (hFinds : checker.Finds P)
    (e : Expr)
    (types : List Ty) :
    (∀ issue ∈ (checker.verdict e types).first, P issue) ∧
      ∀ issue ∈ (checker.verdict e types).last, P issue := by
  cases hAccess : e.isAccess with
  | false => exact hFinds.toFindsElsewhere.verdict hAccess types
  | true =>
      cases e with
      | getAttr base attr =>
          exact
            ⟨by simp [Checker.verdict], hFinds.access base attr _⟩
      | _ => cases hAccess

------------------------------------------------------------
-- Places
------------------------------------------------------------

/-
  All issues that a checker finds in one place, without
  looking into subexpressions, have a property: those with
  the expression itself, and those with how deep it stands.
-/
structure Emits
    (checker : Checker)
    (P : Issue → Prop) : Prop extends checker.Finds P where
  limit : P .recursionLimit
  level : ∀ level, ∀ issue ∈ checker.levelIssues level, P issue

/-
  An issue of an expression is on how deep something stands,
  or it is found with an expression that occurs in it, given
  the types of its parts.
-/
theorem cases_of_mem_check
    {checker : Checker}
    {position : Position}
    {level : Nat}
    {e : Expr}
    {issue : Issue}
    (hIssue : issue ∈ (checker.check position level e).2) :
    issue = .recursionLimit ∨
      (∃ depth, issue ∈ checker.levelIssues depth) ∨
      ∃ inner place depth,
        inner.Occurs e ∧
          (issue ∈ (checker.verdict inner
              ((checker.checkParts place (inner.levelBelow depth) 0
                inner.children).map Prod.fst)).first ∨
            issue ∈ (checker.verdict inner
              ((checker.checkParts place (inner.levelBelow depth) 0
                inner.children).map Prod.fst)).last) := by
  induction e using Expr.parts_induction
    generalizing position level with
  | hStep e ih =>
      cases hGuard : checker.guard position with
      | true =>
          rw [check_of_guard hGuard] at hIssue
          exact Or.inl (List.mem_singleton.mp hIssue)
      | false =>
          rw [check_eq hGuard, assemble, List.mem_append] at hIssue
          rcases hIssue with hLevel | hAround
          · unfold accessIssues at hLevel
            split at hLevel
            · exact Or.inr (Or.inl ⟨_, hLevel⟩)
            · cases hLevel
          · rcases Verdict.mem_around hAround with hParts | hVerdict
            · rcases List.mem_flatten.mp hParts with
                ⟨issues, hIssues, hMem⟩
              rcases List.mem_map.mp hIssues with
                ⟨checked, hChecked, rfl⟩
              rcases exists_of_mem_checkParts hChecked with
                ⟨part, hPart, place, rfl⟩
              rcases ih part hPart hMem with hLimit | hLevel |
                ⟨inner, place, depth, hOccurs, hVerdict⟩
              · exact Or.inl hLimit
              · exact Or.inr (Or.inl hLevel)
              · exact
                  Or.inr (Or.inr
                    ⟨inner, place, depth,
                      hOccurs.tail (Expr.isPart_iff.mpr hPart),
                      hVerdict⟩)
            · exact
                Or.inr (Or.inr ⟨e, position, level, .refl, hVerdict⟩)

namespace Emits

variable {checker : Checker} {P : Issue → Prop}

/-
  Every issue of an expression comes from a local check, so
  it has the property.
-/
theorem check
    (hEmits : checker.Emits P)
    (position : Position)
    (level : Nat)
    (e : Expr) :
    ∀ issue ∈ (checker.check position level e).2, P issue := by
  intro issue hIssue
  rcases cases_of_mem_check hIssue with
    rfl | ⟨depth, hLevel⟩ | ⟨inner, place, depth, _, hVerdict⟩
  · exact hEmits.limit
  · exact hEmits.level depth issue hLevel
  · rcases hVerdict with hFirst | hLast
    · exact (hEmits.verdict inner _).1 issue hFirst
    · exact (hEmits.verdict inner _).2 issue hLast

------------------------------------------------------------
-- Conditions
------------------------------------------------------------

/- The issues of a list of conditions. -/
theorem checkClauses
    (hEmits : checker.Emits P)
    (index : Nat)
    (clauses : List Clause) :
    ∀ issue ∈ checker.checkClauses index clauses, P issue := by
  intro issue hIssue
  rw [checkClauses_eq] at hIssue
  rcases List.mem_flatMap.mp hIssue with ⟨checked, hChecked, hMem⟩
  rcases List.mem_append.mp hMem with hBody | hTy
  · rcases exists_of_mem_checkParts hChecked with ⟨e, _, place, rfl⟩
    exact hEmits.check _ _ e issue hBody
  · exact hEmits.conditionIssues _ issue hTy

/- Every issue of the conditions of a policy has the property. -/
theorem checkConditions
    (hEmits : checker.Emits P)
    (conditions : List Clause) :
    ∀ issue ∈ checker.checkConditions conditions, P issue := by
  intro issue hIssue
  rw [checkConditions_eq_limitOnce] at hIssue
  exact
    hEmits.checkClauses 0 conditions issue
      (mem_of_mem_limitOnce hIssue)

end Emits

------------------------------------------------------------
-- Accesses And Calls
------------------------------------------------------------

/- An attribute of a record type is at most not found. -/
theorem attrOf_onAccess
    {record : RecordType}
    {access : AttributeAccess} :
    ∀ issue ∈ (attrOf record access).2,
      issue.isOnAccess = true := by
  intro issue hIssue
  unfold attrOf at hIssue
  split at hIssue
  · simp at hIssue
  · split at hIssue
    · simp at hIssue
    · rw [List.mem_singleton.mp hIssue]
      rfl

/- The issues of attribute accesses are on accesses. -/
theorem accessAttr_onAccess
    (checker : Checker)
    (base : Expr)
    (attr : String)
    (ty : Ty) :
    ∀ issue ∈ (checker.accessAttr base attr ty).2,
      issue.isOnAccess = true := by
  intro issue hIssue
  unfold accessAttr at hIssue
  split at hIssue
  · simp at hIssue
  · simp at hIssue
  · simp at hIssue
  · split at hIssue
    · exact attrOf_onAccess issue hIssue
    · split at hIssue
      · rw [List.mem_singleton.mp hIssue]
        rfl
      · rw [List.mem_singleton.mp hIssue]
        rfl
  · exact attrOf_onAccess issue hIssue
  · rw [List.mem_singleton.mp hIssue]
    rfl

/- Arguments are at most of an unexpected type. -/
theorem argumentIssues_onCall
    (expected actual : List Ty) :
    ∀ issue ∈ argumentIssues expected actual,
      issue.isOnCall = true := by
  fun_induction argumentIssues expected actual with
  | case1 expected es actual as ih =>
      intro issue hIssue
      rcases List.mem_append.mp hIssue with hHere | hRest
      · split at hHere
        · simp at hHere
        · rw [List.mem_singleton.mp hHere]
          rfl
      · exact ih issue hRest
  | case2 => simp

/- A literal is at most refused by its constructor. -/
theorem literalIssues_onCall
    (constructs : Option ExtensionKind)
    (args : List Expr) :
    ∀ issue ∈ literalIssues constructs args,
      issue.isOnCall = true := by
  intro issue hIssue
  unfold literalIssues at hIssue
  split at hIssue
  · split at hIssue
    · split at hIssue
      · rw [List.mem_singleton.mp hIssue]
        rfl
      · simp at hIssue
    · simp at hIssue
  · simp at hIssue

/- The issues of calls are on their arguments. -/
theorem checkCall_onCall
    (function : String)
    (args : List Expr)
    (types : List Ty) :
    ∀ issue ∈ (checkCall function args types).2,
      issue.isOnCall = true := by
  intro issue hIssue
  unfold checkCall at hIssue
  split at hIssue
  · simp at hIssue
  · split at hIssue
    · rw [List.mem_singleton.mp hIssue]
      rfl
    · rcases List.mem_append.mp hIssue with hArgs | hLiteral
      · exact argumentIssues_onCall _ _ issue hArgs
      · exact literalIssues_onCall _ _ issue hLiteral

/- The only issue with a literal is that an action is unknown. -/
theorem exists_of_mem_checkLiteral
    {checker : Checker}
    {value : Literal}
    {issue : Issue}
    (hIssue : issue ∈ (checker.checkLiteral value).2) :
    ∃ uid, issue = checker.schema.unrecognizedAction uid := by
  unfold checkLiteral at hIssue
  split at hIssue
  · simp at hIssue
  · simp at hIssue
  · simp at hIssue
  · split at hIssue
    · exact ⟨_, List.mem_singleton.mp hIssue⟩
    · simp at hIssue

/- The only issue with a level is that it is exceeded. -/
theorem exists_of_mem_levelIssues
    {checker : Checker}
    {level : Nat}
    {issue : Issue}
    (hIssue : issue ∈ checker.levelIssues level) :
    ∃ allowed, issue = .levelExceeded allowed level := by
  unfold levelIssues at hIssue
  split at hIssue
  · exact ⟨_, List.mem_singleton.mp hIssue⟩
  · cases hIssue

/- Expressions that are no accesses have no issues of accesses. -/
theorem findsElsewhere_of_elsewhere
    {checker : Checker}
    {P : Issue → Prop}
    (hElsewhere :
      ∀ issue : Issue, issue.isElsewhere = true → P issue) :
    checker.FindsElsewhere P where
  literal := by
    intro value issue hIssue
    rcases exists_of_mem_checkLiteral hIssue with ⟨uid, rfl⟩
    exact hElsewhere _ rfl
  call := by
    intro function args types issue hIssue
    have hCall := checkCall_onCall function args types issue hIssue
    exact hElsewhere issue (Issue.isElsewhere_of_isOnCall hCall)
  unexpected := fun _ _ _ => hElsewhere _ rfl
  operand := fun _ _ => hElsewhere _ rfl
  incompatible := fun _ _ _ => hElsewhere _ rfl

/- What holds of all plain issues holds of those of expressions. -/
theorem finds_of_plain
    {checker : Checker}
    {P : Issue → Prop}
    (hPlain : ∀ issue : Issue, issue.isPlain = true → P issue) :
    checker.Finds P where
  toFindsElsewhere :=
    findsElsewhere_of_elsewhere fun issue hElsewhere =>
      hPlain issue (Issue.isElsewhere_iff.mp hElsewhere).1
  access := by
    intro base attr ty issue hIssue
    have hAccess :=
      checker.accessAttr_onAccess base attr ty issue hIssue
    exact hPlain issue (Issue.isPlain_of_isOnAccess hAccess)

/-
  What holds of all plain issues and of those about depth
  holds of every issue of a local check.
-/
theorem emits_of_plain
    {checker : Checker}
    {P : Issue → Prop}
    (hPlain : ∀ issue : Issue, issue.isPlain = true → P issue)
    (hLimit : P .recursionLimit)
    (hLevel :
      ∀ level, ∀ issue ∈ checker.levelIssues level, P issue) :
    checker.Emits P where
  toFinds := finds_of_plain hPlain
  limit := hLimit
  level := hLevel

/- No local check calls a policy impossible. -/
theorem emits_possible
    (checker : Checker) :
    checker.Emits fun issue => issue.isImpossible = false := by
  apply emits_of_plain
  · intro issue hPlain
    exact (Issue.isPlain_iff.mp hPlain).1
  · rfl
  · intro level issue hIssue
    rcases exists_of_mem_levelIssues hIssue with ⟨allowed, rfl⟩
    rfl

/- No issue of a condition calls the policy impossible. -/
theorem checkConditions_possible
    (checker : Checker)
    (conditions : List Clause) :
    ∀ issue ∈ checker.checkConditions conditions,
      issue.isImpossible = false :=
  checker.emits_possible.checkConditions conditions

end Checker

end PolicyCheck
