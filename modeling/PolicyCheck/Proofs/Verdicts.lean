import Mathlib.Logic.Relation
import PolicyCheck.Expr.Traversal
import PolicyCheck.Typing.Check

/-
  How the check of an expression is put together from the
  checks of its parts. Of an expression itself a verdict is
  given, which depends on its parts through their types
  only: its own type, what is wrong with the first part, and
  what is wrong otherwise. What one step of the check does
  is said here once for all forms of expressions.

  Main declarations:
    * `Expr.IsPart`
    * `Expr.Occurs`
    * `Expr.parts_induction`
    * `Checker.checkParts`
    * `Verdict`
    * `Checker.verdict`
    * `Checker.check_eq`
    * `Checker.checkClauses_eq`
-/

namespace PolicyCheck

------------------------------------------------------------
-- Parts
------------------------------------------------------------

namespace Expr

/- One expression is a direct part of another one. -/
inductive IsPart : Expr → Expr → Prop where
  | test {test yes no} : IsPart test (.ite test yes no)
  | yes {test yes no} : IsPart yes (.ite test yes no)
  | no {test yes no} : IsPart no (.ite test yes no)
  | andLeft {left right} : IsPart left (.and left right)
  | andRight {left right} : IsPart right (.and left right)
  | orLeft {left right} : IsPart left (.or left right)
  | orRight {left right} : IsPart right (.or left right)
  | operand {op arg} : IsPart arg (.unary op arg)
  | left {op left right} : IsPart left (.binary op left right)
  | right {op left right} : IsPart right (.binary op left right)
  | arg {function args arg} (hMem : arg ∈ args) :
      IsPart arg (.call function args)
  | getBase {base attr} : IsPart base (.getAttr base attr)
  | hasBase {base attr} : IsPart base (.hasAttr base attr)
  | text {arg pattern} : IsPart arg (.like arg pattern)
  | isArg {arg type} : IsPart arg (.is arg type)
  | isInArg {arg type group} : IsPart arg (.isIn arg type group)
  | isInGroup {arg type group} : IsPart group (.isIn arg type group)
  | element {elements element} (hMem : element ∈ elements) :
      IsPart element (.set elements)
  | field {fields name value} (hMem : (name, value) ∈ fields) :
      IsPart value (.record fields)

/- One expression stands somewhere in another one, or is it. -/
def Occurs
    (e whole : Expr) : Prop :=
  Relation.ReflTransGen IsPart e whole

/- The walk goes on with the direct parts, and with no others. -/
theorem isPart_iff
    {part e : Expr} :
    part.IsPart e ↔ part ∈ e.children := by
  constructor
  · intro hPart
    cases hPart with
    | arg hMem => exact hMem
    | element hMem => exact hMem
    | field hMem => exact List.mem_map.mpr ⟨_, hMem, rfl⟩
    | _ => simp [children]
  · intro hMem
    cases e with
    | call function args => exact .arg hMem
    | set elements => exact .element hMem
    | record fields =>
        obtain ⟨⟨name, value⟩, hField, rfl⟩ := List.mem_map.mp hMem
        exact .field hField
    | lit value => cases hMem
    | var name => cases hMem
    | _ =>
        simp only [children, List.mem_cons, List.not_mem_nil,
          or_false] at hMem
        grind [IsPart]

/- A member of a list weighs no more than the list. -/
theorem weight_le_of_mem
    {e : Expr}
    {es : List Expr}
    (hMem : e ∈ es) :
    weight e ≤ listWeight es := by
  induction es with
  | nil => cases hMem
  | cons first rest ih =>
      rw [listWeight]
      rcases List.mem_cons.mp hMem with rfl | hRest
      · omega
      · have hLe := ih hRest
        omega

/- A part weighs less than the whole. -/
theorem weight_lt_of_mem_children
    {part e : Expr}
    (hPart : part ∈ e.children) :
    weight part < weight e := by
  have hLe := weight_le_of_mem hPart
  rw [weight_eq e]
  omega

/-
  What holds of an expression as soon as it holds of its
  parts holds of every expression.
-/
theorem parts_induction
    {P : Expr → Prop}
    (hStep : ∀ e : Expr, (∀ part ∈ e.children, P part) → P e)
    (e : Expr) :
    P e :=
  hStep e fun part _ => parts_induction hStep part
termination_by e.weight
decreasing_by exact weight_lt_of_mem_children ‹_›

/- The expression is an attribute access. -/
def isAccess : Expr → Bool
  | .getAttr _ _ => true
  | _ => false

/- The level of the parts of an expression at a level. -/
def levelBelow
    (e : Expr)
    (level : Nat) : Nat :=
  if e.isAccess then level + 1 else level

end Expr

------------------------------------------------------------
-- Unfolding
------------------------------------------------------------

namespace Checker

section Unfolding

variable {checker : Checker} {position : Position} {level : Nat}

/- Where the guard trips nothing else is looked at. -/
theorem check_of_guard
    (hGuard : checker.guard position = true)
    {e : Expr} :
    checker.check position level e =
      (.unknown, [.recursionLimit]) := by
  cases e <;> simp [check, hGuard]

theorem check_lit
    (hGuard : checker.guard position = false)
    {value : Literal} :
    checker.check position level (.lit value) =
      checker.checkLiteral value := by
  simp [check, hGuard]

theorem check_call
    (hGuard : checker.guard position = false)
    {function : String}
    {args : List Expr} :
    checker.check position level (.call function args) =
      ((checkCall function args
          (checker.checkList position level 0 args).1).1,
        (checker.checkList position level 0 args).2 ++
          (checkCall function args
            (checker.checkList position level 0 args).1).2) := by
  simp [check, hGuard]

theorem check_set
    (hGuard : checker.guard position = false)
    {elements : List Expr} :
    checker.check position level (.set elements) =
      ((Operand.setLiteral
          (checker.checkList position level 0 elements).1).1,
        (checker.checkList position level 0 elements).2 ++
          (Operand.setLiteral
            (checker.checkList position level 0 elements).1).2) := by
  simp [check, hGuard]

end Unfolding

------------------------------------------------------------
-- Lists Of Parts
------------------------------------------------------------

section Lists

variable (checker : Checker) (position : Position) (level : Nat)

/- What is found in a list of parts, from one index on. -/
def checkParts : Nat → List Expr → List Checked
  | _, [] => []
  | index, e :: es =>
      checker.check (index :: position) level e ::
        checkParts (index + 1) es

@[simp]
theorem length_checkParts
    (index : Nat)
    (es : List Expr) :
    (checker.checkParts position level index es).length =
      es.length := by
  induction es generalizing index with
  | nil => rfl
  | cons e es ih => simp [checkParts, ih]

/- What is found in one part is looked for at its place. -/
theorem getElem?_checkParts
    (index : Nat)
    (es : List Expr)
    (place : Nat) :
    (checker.checkParts position level index es)[place]? =
      es[place]?.map
        (checker.check ((index + place) :: position) level) := by
  induction es generalizing index place with
  | nil => rfl
  | cons e es ih =>
      cases place with
      | zero => rfl
      | succ place =>
          rw [checkParts, List.getElem?_cons_succ,
            List.getElem?_cons_succ, ih, Nat.succ_add_eq_add_succ]

/- Lists of expressions are checked part by part. -/
theorem checkList_eq
    (index : Nat)
    (es : List Expr) :
    checker.checkList position level index es =
      ((checker.checkParts position level index es).map Prod.fst,
        ((checker.checkParts position level index es).map
          Prod.snd).flatten) := by
  induction es generalizing index with
  | nil => simp [checkList, checkParts]
  | cons e es ih => simp [checkList, checkParts, ih]

/- So are the fields of records, which keep their names. -/
theorem checkFields_eq
    (index : Nat)
    (fields : List (String × Expr)) :
    checker.checkFields position level index fields =
      ((fields.map Prod.fst).zip
          ((checker.checkParts position level index
            (fields.map Prod.snd)).map Prod.fst),
        ((checker.checkParts position level index
          (fields.map Prod.snd)).map Prod.snd).flatten) := by
  induction fields generalizing index with
  | nil => simp [checkFields, checkParts]
  | cons field rest ih => simp [checkFields, checkParts, ih]

variable {checker} {position} {level}

/- What is found in a list is found at one of its places. -/
theorem mem_checkParts_iff
    {index : Nat}
    {es : List Expr}
    {checked : Checked} :
    checked ∈ checker.checkParts position level index es ↔
      ∃ place e, es[place]? = some e ∧
        checker.check ((index + place) :: position) level e =
          checked := by
  simp only [List.mem_iff_getElem?, getElem?_checkParts,
    Option.map_eq_some_iff]

/- So it is found in one of its members. -/
theorem exists_of_mem_checkParts
    {index : Nat}
    {es : List Expr}
    {checked : Checked}
    (hMem : checked ∈ checker.checkParts position level index es) :
    ∃ e ∈ es, ∃ place,
      checked = checker.check (place :: position) level e := by
  rcases mem_checkParts_iff.mp hMem with ⟨place, e, hFound, hChecked⟩
  exact ⟨e, List.mem_of_getElem? hFound, _, hChecked.symm⟩

/- Every member of a list is checked somewhere. -/
theorem exists_mem_checkParts
    {e : Expr}
    {es : List Expr}
    (hMem : e ∈ es)
    (index : Nat) :
    ∃ place,
      checker.check (place :: position) level e ∈
        checker.checkParts position level index es := by
  rcases List.mem_iff_getElem?.mp hMem with ⟨place, hFound⟩
  exact ⟨_, mem_checkParts_iff.mpr ⟨place, e, hFound, rfl⟩⟩

/- Checkers that agree on the parts of a list agree on it. -/
theorem checkParts_congr
    {other : Checker}
    {es : List Expr}
    {index : Nat}
    (hSame :
      ∀ place e, es[place]? = some e →
        checker.check ((index + place) :: position) level e =
          other.check ((index + place) :: position) level e) :
    checker.checkParts position level index es =
      other.checkParts position level index es := by
  apply List.ext_getElem?
  intro place
  rw [getElem?_checkParts, getElem?_checkParts]
  apply Option.map_congr
  intro e hFound
  exact hSame place e hFound

end Lists

end Checker

------------------------------------------------------------
-- Verdicts
------------------------------------------------------------

/-
  What is said of an expression itself: its type, the issues
  with its first part, and all other issues. The first ones
  are reported before those of the other parts.
-/
structure Verdict where
  ty : Ty
  first : List Issue
  last : List Issue

namespace Verdict

/- A verdict whose issues come after those of all parts. -/
def atEnd
    (checked : Checked) : Verdict :=
  ⟨checked.1, [], checked.2⟩

/- The issues of an expression, given those of its parts. -/
def around
    (verdict : Verdict) : List (List Issue) → List Issue
  | [] => verdict.last
  | part :: parts =>
      part ++ verdict.first ++ parts.flatten ++ verdict.last

@[simp]
theorem ty_atEnd
    (checked : Checked) :
    (atEnd checked).ty = checked.1 :=
  rfl

@[simp]
theorem first_atEnd
    (checked : Checked) :
    (atEnd checked).first = [] :=
  rfl

@[simp]
theorem last_atEnd
    (checked : Checked) :
    (atEnd checked).last = checked.2 :=
  rfl

@[simp]
theorem around_cons
    (verdict : Verdict)
    (part : List Issue)
    (parts : List (List Issue)) :
    verdict.around (part :: parts) =
      part ++ verdict.first ++ parts.flatten ++ verdict.last :=
  rfl

/- Issues at the end follow those of all parts. -/
@[simp]
theorem around_atEnd
    (checked : Checked)
    (parts : List (List Issue)) :
    (atEnd checked).around parts = parts.flatten ++ checked.2 := by
  cases parts <;> simp [atEnd, around]

/- The issues of an expression are its own or of a part. -/
theorem mem_around
    {verdict : Verdict}
    {parts : List (List Issue)}
    {issue : Issue}
    (hMem : issue ∈ verdict.around parts) :
    issue ∈ parts.flatten ∨
      issue ∈ verdict.first ∨ issue ∈ verdict.last := by
  cases parts with
  | nil => exact Or.inr (Or.inr hMem)
  | cons part parts =>
      simp only [around_cons, List.mem_append] at hMem
      rw [List.flatten_cons, List.mem_append]
      rcases hMem with ((hPart | hFirst) | hParts) | hLast
      · exact Or.inl (Or.inl hPart)
      · exact Or.inr (Or.inl hFirst)
      · exact Or.inl (Or.inr hParts)
      · exact Or.inr (Or.inr hLast)

/- An issue that is not of the verdict is one of a part. -/
theorem mem_around_iff
    {verdict : Verdict}
    {issue : Issue}
    (hFirst : issue ∉ verdict.first)
    (hLast : issue ∉ verdict.last)
    {parts : List (List Issue)} :
    issue ∈ verdict.around parts ↔ issue ∈ parts.flatten := by
  cases parts with
  | nil => simpa [around] using hLast
  | cons part parts => simp [hFirst, hLast]

/- Where there is no issue, there is none in a part. -/
theorem eq_nil_of_around
    {verdict : Verdict}
    {parts : List (List Issue)}
    (hNone : verdict.around parts = [])
    {part : List Issue}
    (hMem : part ∈ parts) :
    part = [] := by
  cases parts with
  | nil => cases hMem
  | cons first rest =>
      simp only [around_cons, List.append_eq_nil_iff,
        List.flatten_eq_nil_iff] at hNone
      rcases List.mem_cons.mp hMem with rfl | hRest
      · exact hNone.1.1.1
      · exact hNone.1.2 part hRest

/- Choosing among issues, where none is chosen from a verdict. -/
theorem filter_around_of_none
    {verdict : Verdict}
    {chosen : Issue → Bool}
    (hFirst : ∀ issue ∈ verdict.first, chosen issue = false)
    (hLast : ∀ issue ∈ verdict.last, chosen issue = false)
    {parts : List (List Issue)} :
    (verdict.around parts).filter chosen =
      parts.flatten.filter chosen := by
  have hFirstNil : verdict.first.filter chosen = [] := by
    simpa [List.filter_eq_nil_iff] using hFirst
  have hLastNil : verdict.last.filter chosen = [] := by
    simpa [List.filter_eq_nil_iff] using hLast
  cases parts with
  | nil => exact hLastNil
  | cons part parts => simp [hFirstNil, hLastNil]

/- Choosing among issues, where a verdict is chosen as a whole. -/
theorem filter_around_of_all
    {verdict : Verdict}
    {chosen : Issue → Bool}
    (hFirst : ∀ issue ∈ verdict.first, chosen issue = true)
    (hLast : ∀ issue ∈ verdict.last, chosen issue = true)
    {parts : List (List Issue)} :
    (verdict.around parts).filter chosen =
      verdict.around (parts.map (List.filter chosen)) := by
  have hFirstSame : verdict.first.filter chosen = verdict.first :=
    List.filter_eq_self.mpr hFirst
  have hLastSame : verdict.last.filter chosen = verdict.last :=
    List.filter_eq_self.mpr hLast
  cases parts with
  | nil => exact hLastSame
  | cons part parts =>
      simp [hFirstSame, hLastSame, List.filter_flatten]

end Verdict

namespace Checker

/- The verdict on an expression whose parts have types. -/
def verdict
    (checker : Checker)
    (e : Expr)
    (types : List Ty) : Verdict :=
  let part (index : Nat) : Ty := types.getD index .unknown
  match e with
  | .lit value => .atEnd (checker.checkLiteral value)
  | .var name => .atEnd (checker.varTy name, [])
  | .ite _ _ _ =>
      ⟨Ty.unify (part 1) (part 2),
        if (part 0).mayBeBool then []
        else [.unexpectedType .bool (part 0) none],
        []⟩
  | .and _ _ =>
      ⟨.bool, Operand.bool (part 0), Operand.bool (part 1)⟩
  | .or _ _ =>
      ⟨.bool, Operand.bool (part 0), Operand.bool (part 1)⟩
  | .unary op _ => .atEnd (op.check (part 0))
  | .binary op _ _ =>
      .atEnd (checker.schema.checkBinary op (part 0) (part 1))
  | .call function args => .atEnd (checkCall function args types)
  | .getAttr base attr =>
      .atEnd (checker.accessAttr base attr (part 0))
  | .hasAttr _ _ =>
      .atEnd
        (.bool,
          Operand.require .has (part 0).mayHaveAttributes (part 0))
  | .like _ _ =>
      .atEnd
        (.bool, Operand.require .like (part 0).mayBeString (part 0))
  | .is _ _ =>
      .atEnd
        (.bool, Operand.require .is (part 0).mayBeEntity (part 0))
  | .isIn _ _ _ =>
      ⟨.bool, Operand.require .is (part 0).mayBeEntity (part 0),
        Operand.group (part 1)⟩
  | .set _ => .atEnd (Operand.setLiteral types)
  | .record fields =>
      .atEnd
        (Ty.closedRecord ((fields.map Prod.fst).zip types), [])

/- The issue with the level of an expression, if it is an access. -/
def accessIssues
    (checker : Checker)
    (level : Nat)
    (e : Expr) : List Issue :=
  if e.isAccess then checker.levelIssues (level + 1) else []

/- What is found in an expression, given what is in its parts. -/
def assemble
    (checker : Checker)
    (level : Nat)
    (e : Expr)
    (parts : List Checked) : Checked :=
  ((checker.verdict e (parts.map Prod.fst)).ty,
    checker.accessIssues level e ++
      (checker.verdict e (parts.map Prod.fst)).around
        (parts.map Prod.snd))

/-
  An expression is checked by checking its parts, each at
  its own position, and giving a verdict.
-/
theorem check_eq
    {checker : Checker}
    {position : Position}
    (hGuard : checker.guard position = false)
    (level : Nat)
    (e : Expr) :
    checker.check position level e =
      checker.assemble level e
        (checker.checkParts position (e.levelBelow level) 0
          e.children) := by
  -- Every form is unfolded on both sides; they differ in how
  -- the lists of issues are grouped.
  cases e <;>
    simp [check, hGuard, checkList_eq, checkFields_eq, checkParts,
      assemble, verdict, accessIssues, Expr.children, Expr.isAccess,
      Expr.levelBelow]

------------------------------------------------------------
-- Conditions
------------------------------------------------------------

/- Conditions are checked one by one, like the parts of a whole. -/
theorem checkClauses_eq
    (checker : Checker)
    (index : Nat)
    (clauses : List Clause) :
    checker.checkClauses index clauses =
      (checker.checkParts [] 0 index
        (clauses.map Clause.body)).flatMap fun checked =>
          checked.2 ++ conditionIssues checked.1 := by
  induction clauses generalizing index with
  | nil => rfl
  | cons clause rest ih => simp [checkClauses, checkParts, ih]

end Checker

end PolicyCheck
