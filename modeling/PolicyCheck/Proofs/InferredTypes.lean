import PolicyCheck.Proofs.ListedOrder

/-
  The types that are inferred for expressions. All record
  types among them list their attributes in order, provided
  that the types of the variables and of the schema do, and
  the record literals of the expression. So what holds of
  ordered types only can be relied on wherever expressions
  are checked.

  Main declarations:
    * `Checker.Ordered`
    * `Expr.Ordered`
    * `Checker.Ordered.verdict`
    * `Checker.Ordered.check`
    * `Validator.checker_ordered`
-/

namespace PolicyCheck

------------------------------------------------------------
-- Ordered Checkers And Expressions
------------------------------------------------------------

/-
  The types that a checker starts from are ordered: those of
  the variables, and the shapes of entities.
-/
structure Checker.Ordered
    (checker : Checker) : Prop where
  vars : ∀ name, (checker.varTy name).Ordered
  shapes :
    ∀ type info, checker.schema.entityType? type = some info →
      (Ty.record info.shape).Ordered

namespace Expr

/- All record literals of an expression list fields in order. -/
def Ordered
    (e : Expr) : Prop :=
  ∀ fields, (Expr.record fields).Occurs e → Assoc.Ascending fields

/- The parts of an ordered expression are ordered. -/
theorem Ordered.part
    {part e : Expr}
    (hOrdered : e.Ordered)
    (hPart : part.IsPart e) :
    part.Ordered := by
  intro fields hOccurs
  exact hOrdered fields (hOccurs.tail hPart)

/- An expression is ordered if its parts are, and it is itself. -/
theorem ordered_of_parts
    {e : Expr}
    (hHere : ∀ fields, e = .record fields → Assoc.Ascending fields)
    (hParts : ∀ part : Expr, part.IsPart e → part.Ordered) :
    e.Ordered := by
  intro fields hOccurs
  rcases Relation.ReflTransGen.cases_tail hOccurs with
    hSame | ⟨part, hWithin, hPart⟩
  · exact hHere fields hSame
  · exact hParts part hPart fields hWithin

end Expr

------------------------------------------------------------
-- Types Of Single Steps
------------------------------------------------------------

namespace Ty

/- No record occurs in a type. -/
def recordFree : Ty → Bool
  | .set element => recordFree element
  | .record _ => false
  | _ => true

/- A type without records is ordered. -/
theorem ordered_of_recordFree :
    (ty : Ty) → ty.recordFree = true → ty.Ordered
  | .set element, hFree => by
      rw [recordFree] at hFree
      rw [Ordered]
      exact ordered_of_recordFree element hFree
  | .record _, hFree => by simp [recordFree] at hFree
  | .bool, _ => by simp [Ordered]
  | .long, _ => by simp [Ordered]
  | .string, _ => by simp [Ordered]
  | .entity _, _ => by simp [Ordered]
  | .anyEntity, _ => by simp [Ordered]
  | .extension _, _ => by simp [Ordered]
  | .unknown, _ => by simp [Ordered]
  | .unspecified, _ => by simp [Ordered]

/- Unification gives one of two types, or nothing. -/
theorem unify_cases
    (a b : Ty) :
    unify a b = a ∨ unify a b = b ∨ unify a b = .unknown := by
  unfold unify
  split
  · exact Or.inr (Or.inl rfl)
  · exact Or.inl rfl
  · split
    · exact Or.inl rfl
    · exact Or.inr (Or.inr rfl)

/- Unification of ordered types gives an ordered type. -/
theorem unify_ordered
    {a b : Ty}
    (hA : a.Ordered)
    (hB : b.Ordered) :
    (unify a b).Ordered := by
  rcases unify_cases a b with h | h | h
  · rw [h]
    exact hA
  · rw [h]
    exact hB
  · simp [h, Ordered]

/- A record literal of ordered types is ordered. -/
theorem closedRecord_ordered
    {fields : List (String × Ty)}
    (hAscending : Assoc.Ascending fields)
    (hTypes : ∀ name ty, (name, ty) ∈ fields → ty.Ordered) :
    (closedRecord fields).Ordered := by
  rw [closedRecord, Ordered]
  constructor
  · unfold Assoc.Ascending Assoc.keys at hAscending ⊢
    rw [List.map_map]
    exact hAscending
  · rw [orderedAttrs_iff]
    intro name declared hMem
    rcases List.mem_map.mp hMem with ⟨⟨other, ty⟩, hField, hSame⟩
    rcases Prod.mk.inj hSame with ⟨_, rfl⟩
    exact hTypes other ty hField

end Ty

/- What is known of the elements of a set literal is ordered. -/
theorem Operand.joinElements_ordered
    {sofar : Ty}
    {types : List Ty}
    (hSofar : sofar.Ordered)
    (hTypes : ∀ ty ∈ types, ty.Ordered) :
    (joinElements sofar types).1.Ordered := by
  induction types generalizing sofar with
  | nil => exact hSofar
  | cons ty rest ih =>
      apply ih
      · exact Ty.unify_ordered hSofar (hTypes ty List.mem_cons_self)
      · intro other hMem
        exact hTypes other (List.mem_cons_of_mem _ hMem)

/- The type of a set literal is ordered. -/
theorem Operand.setLiteral_ordered
    {types : List Ty}
    (hTypes : ∀ ty ∈ types, ty.Ordered) :
    (setLiteral types).1.Ordered := by
  cases types with
  | nil => simp [setLiteral, Ty.Ordered]
  | cons first rest =>
      rw [setLiteral, Ty.Ordered]
      apply joinElements_ordered (hTypes first List.mem_cons_self)
      intro ty hMem
      exact hTypes ty (List.mem_cons_of_mem _ hMem)

/- No extension function gives a record. -/
theorem Signature.recordFree_result
    {function : String}
    {signature : Signature}
    (hFound : Signature.find? function = some signature) :
    signature.result.recordFree = true := by
  have hAll : ∀ other ∈ all, other.result.recordFree = true := by
    decide
  exact hAll signature (List.mem_of_find?_eq_some hFound)

namespace Checker

/- The type of a literal is ordered. -/
theorem checkLiteral_ordered
    (checker : Checker)
    (value : Literal) :
    (checker.checkLiteral value).1.Ordered := by
  cases value <;> simp [checkLiteral, Ty.Ordered]

/- The type of an operator with one operand is ordered. -/
theorem unary_ordered
    (op : UnaryOp)
    (ty : Ty) :
    (op.check ty).1.Ordered := by
  cases op <;> simp [UnaryOp.check, Ty.Ordered]

/- The type of an operator with two operands is ordered. -/
theorem checkBinary_ordered
    (schema : Schema)
    (op : BinaryOp)
    (a b : Ty) :
    (schema.checkBinary op a b).1.Ordered := by
  cases op <;> simp [Schema.checkBinary, Ty.Ordered]

/- The type of a call is ordered. -/
theorem checkCall_ordered
    (function : String)
    (args : List Expr)
    (types : List Ty) :
    (checkCall function args types).1.Ordered := by
  unfold checkCall
  cases hFound : Signature.find? function with
  | none => simp [Ty.Ordered]
  | some signature =>
      have hResult :=
        Ty.ordered_of_recordFree _
          (Signature.recordFree_result hFound)
      by_cases hCount : signature.args.length = args.length
      · simpa [hCount] using hResult
      · simpa [hCount] using hResult

/- The type of an attribute of an ordered record is ordered. -/
theorem attrOf_ordered
    {record : RecordType}
    (hRecord : (Ty.record record).Ordered)
    (access : AttributeAccess) :
    (attrOf record access).1.Ordered := by
  unfold attrOf
  cases hFound : record.attr? access.attr with
  | some attr =>
      exact RecordOf.type_ordered_of_mem hRecord
        (Assoc.mem_of_find? hFound)
  | none => cases record.isOpen <;> simp [Ty.Ordered]

namespace Ordered

variable {checker : Checker}

/- The type of an attribute access is ordered. -/
theorem accessAttr
    (hChecker : checker.Ordered)
    (base : Expr)
    (attr : String)
    {ty : Ty}
    (hTy : ty.Ordered) :
    (checker.accessAttr base attr ty).1.Ordered := by
  cases ty with
  | entity type =>
      cases hFound : checker.schema.entityType? type with
      | some info =>
          simp only [Checker.accessAttr, hFound]
          exact attrOf_ordered (hChecker.shapes type info hFound) _
      | none =>
          simp only [Checker.accessAttr, hFound]
          cases type.isAction <;> simp [Ty.Ordered]
  | record record => exact attrOf_ordered hTy _
  | _ => simp [Checker.accessAttr, Ty.Ordered]

------------------------------------------------------------
-- Expressions
------------------------------------------------------------

/-
  The verdict on an expression has an ordered type, if its
  parts have. Most forms have a type without records; the
  others take theirs from their parts.
-/
theorem verdict
    (hChecker : checker.Ordered)
    {e : Expr}
    (hHere : ∀ fields, e = .record fields → Assoc.Ascending fields)
    {types : List Ty}
    (hCount : types.length = e.children.length)
    (hTypes : ∀ ty ∈ types, ty.Ordered) :
    (checker.verdict e types).ty.Ordered := by
  have hPart : ∀ index, (types.getD index .unknown).Ordered := by
    intro index
    rw [List.getD_eq_getElem?_getD]
    cases hFound : types[index]? with
    | none => simp [Ty.Ordered]
    | some ty => exact hTypes ty (List.mem_of_getElem? hFound)
  cases e with
  | lit value => exact checker.checkLiteral_ordered value
  | var name => exact hChecker.vars name
  | ite test yes no => exact Ty.unify_ordered (hPart 1) (hPart 2)
  | unary op arg => exact unary_ordered op _
  | binary op left right => exact checkBinary_ordered _ op _ _
  | call function args => exact checkCall_ordered function args _
  | getAttr base attr => exact hChecker.accessAttr base attr (hPart 0)
  | set elements => exact Operand.setLiteral_ordered hTypes
  | record fields =>
      apply Ty.closedRecord_ordered
      · have hNames :
            (fields.map Prod.fst).length ≤ types.length := by
          simp [hCount, Expr.children]
        unfold Assoc.Ascending Assoc.keys
        rw [List.map_fst_zip hNames]
        exact hHere fields rfl
      · intro name ty hMem
        exact hTypes ty (List.of_mem_zip hMem).2
  | _ => simp [Checker.verdict, Ty.Ordered]

/- The type of an ordered expression is ordered. -/
theorem check
    (hChecker : checker.Ordered)
    (position : Position)
    (level : Nat)
    (e : Expr)
    (hOrdered : e.Ordered) :
    (checker.check position level e).1.Ordered := by
  induction e using Expr.parts_induction
    generalizing position level with
  | hStep e ih =>
      cases hGuard : checker.guard position with
      | true => simp [check_of_guard hGuard, Ty.Ordered]
      | false =>
          rw [check_eq hGuard, assemble]
          apply hChecker.verdict
          · intro fields hRecord
            exact hOrdered fields (hRecord ▸ .refl)
          · simp
          · intro ty hTy
            rcases List.mem_map.mp hTy with ⟨checked, hChecked, rfl⟩
            rcases exists_of_mem_checkParts hChecked with
              ⟨part, hPart, place, rfl⟩
            exact ih part hPart _ _
              (hOrdered.part (Expr.isPart_iff.mpr hPart))

/- The types of a list of ordered expressions are ordered. -/
theorem checkList
    (hChecker : checker.Ordered)
    (position : Position)
    (level index : Nat)
    (es : List Expr)
    (hOrdered : ∀ e ∈ es, e.Ordered) :
    ∀ ty ∈ (checker.checkList position level index es).1,
      ty.Ordered := by
  intro ty hTy
  rw [checkList_eq] at hTy
  rcases List.mem_map.mp hTy with ⟨checked, hChecked, rfl⟩
  rcases exists_of_mem_checkParts hChecked with ⟨e, hMem, place, rfl⟩
  exact hChecker.check _ level e (hOrdered e hMem)

end Ordered

end Checker

------------------------------------------------------------
-- Policies
------------------------------------------------------------

/- What ordered contexts have in common is ordered. -/
theorem commonContext_ordered
    {contexts : List RecordType}
    (hOrdered :
      ∀ context ∈ contexts, (Ty.record context).Ordered) :
    (Ty.record (commonContext contexts)).Ordered := by
  cases contexts with
  | nil =>
      simp [commonContext, RecordOf.anything, Ty.Ordered,
        Ty.OrderedAttrs, Assoc.ascending_nil]
  | cons first rest =>
      have hFirst := hOrdered first List.mem_cons_self
      have hAscending :
          Assoc.Ascending (commonContext (first :: rest)).attrs :=
        ascending_commonContext hFirst
      rw [Ty.Ordered, Ty.orderedAttrs_iff]
      refine ⟨hAscending, ?_⟩
      intro name kept hMem
      have hKept :
          (commonContext (first :: rest)).attr? name = some kept :=
        Assoc.find?_of_mem hAscending.nodup hMem
      rw [attr?_commonContext hFirst, Option.bind_eq_some_iff]
        at hKept
      rcases hKept with ⟨declared, hDeclared, hLeft⟩
      rw [(keepAttr_eq_some_iff.mp hLeft).2.1]
      exact RecordOf.type_ordered_of_mem hFirst
        (Assoc.mem_of_find? hDeclared)

/- The type of the principal or the resource is no record. -/
theorem scopeVarTy_ordered
    (constraint : ScopeConstraint)
    (allowed : List EntityType) :
    (scopeVarTy constraint allowed).Ordered := by
  unfold scopeVarTy
  split
  · simp [Ty.Ordered]
  · simp [Ty.Ordered]
  · simp [Ty.Ordered]
  · split
    · simp [Ty.Ordered]
    · simp [Ty.Ordered]

/-
  The conditions of every policy are checked with ordered
  types, if the schema is built from ordered fragments.
-/
theorem Validator.checker_ordered
    {allowUnknown : Bool}
    {fragments : List Fragment}
    {schema : Schema}
    (hBuilt : Schema.build allowUnknown fragments = .ok schema)
    (hOrdered : ∀ fragment ∈ fragments, fragment.Ordered)
    (options : Options)
    (guard : Guard)
    (policy : Policy) :
    ((Validator.mk schema options).checker guard policy).Ordered where
  vars := by
    intro name
    cases name with
    | principal => exact scopeVarTy_ordered _ _
    | resource => exact scopeVarTy_ordered _ _
    | action =>
        cases hAction : policy.action <;>
          simp [Validator.checker, Checker.varTy, Env.ofPolicy,
            Env.actionTy, hAction, Ty.Ordered]
    | context =>
        exact commonContext_ordered
          (Schema.contexts_ordered_of_build hBuilt hOrdered _)
  shapes := by
    intro type info hFound
    exact Schema.shape_ordered_of_build hBuilt hOrdered hFound

end PolicyCheck
