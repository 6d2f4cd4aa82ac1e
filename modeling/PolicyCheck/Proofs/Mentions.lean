import PolicyCheck.Proofs.ConditionIssues
import PolicyCheck.Proofs.DatetimeLiterals
import PolicyCheck.Proofs.DecimalLiterals
import PolicyCheck.Proofs.DurationLiterals
import PolicyCheck.Proofs.IpLiterals
import PolicyCheck.Proofs.Subexpressions
import PolicyCheck.Proofs.Tables
import PolicyCheck.Validator

/-
  What a policy without issues mentions. Names are looked
  for by a walk over all subexpressions, actions and calls
  by the check of types; both get to every part of every
  condition, so nothing that is not declared is overlooked,
  however deep it is.

  Main declarations:
    * `Checker.Passes`
    * `Checker.Passes.of_occurs`
    * `ExtensionKind.Accepts`
    * `ScopeConstraint.Declared`
    * `Expr.Declared`
    * `mentions_declared_of_valid`
-/

namespace PolicyCheck

------------------------------------------------------------
-- Expressions That Pass
------------------------------------------------------------

namespace Checker

variable {checker : Checker}

/- An expression has no issues at some place of a condition. -/
def Passes
    (checker : Checker)
    (e : Expr) : Prop :=
  ∃ position level, (checker.check position level e).2 = []

/- What passes is not too deep. -/
theorem guard_eq_false_of_check
    {position : Position}
    {level : Nat}
    {e : Expr}
    (hNone : (checker.check position level e).2 = []) :
    checker.guard position = false := by
  cases hGuard : checker.guard position with
  | false => rfl
  | true =>
      rw [check_of_guard hGuard] at hNone
      cases hNone

namespace Passes

/-
  The parts of what passes pass, each at its own place: the
  check leaves none of them out.
-/
theorem of_isPart
    {part e : Expr}
    (hPart : part.IsPart e)
    (hPasses : checker.Passes e) :
    checker.Passes part := by
  rcases hPasses with ⟨position, level, hNone⟩
  have hGuard := guard_eq_false_of_check hNone
  rw [check_eq hGuard, assemble, List.append_eq_nil_iff] at hNone
  have hPlace :
      ∃ place,
        checker.check (place :: position) (e.levelBelow level) part ∈
          checker.checkParts position (e.levelBelow level) 0
            e.children :=
    exists_mem_checkParts (Expr.isPart_iff.mp hPart) 0
  rcases hPlace with ⟨place, hChecked⟩
  exact
    ⟨_, _,
      Verdict.eq_nil_of_around hNone.2
        (List.mem_map.mpr ⟨_, hChecked, rfl⟩)⟩

/- Whatever stands in an expression that passes, passes. -/
theorem of_occurs
    {e whole : Expr}
    (hOccurs : e.Occurs whole)
    (hPasses : checker.Passes whole) :
    checker.Passes e := by
  induction hOccurs using Relation.ReflTransGen.head_induction_on with
  | refl => exact hPasses
  | head hPart _ ih => exact ih.of_isPart hPart

end Passes

/- The conditions of a policy without issues pass. -/
theorem passes_of_checkClauses
    {index : Nat}
    {clauses : List Clause}
    (hNone : checker.checkClauses index clauses = [])
    {clause : Clause}
    (hMem : clause ∈ clauses) :
    checker.Passes clause.body := by
  rw [checkClauses_eq, List.flatMap_eq_nil_iff] at hNone
  rcases exists_mem_checkParts (List.mem_map_of_mem hMem) index with
    ⟨place, hChecked⟩
  exact ⟨_, _, (List.append_eq_nil_iff.mp (hNone _ hChecked)).1⟩

/- Reporting a limit once does not hide all issues. -/
theorem eq_nil_of_limitOnce
    {issues : List Issue}
    (hNone : limitOnce issues = []) :
    issues = [] := by
  cases issues with
  | nil => rfl
  | cons first rest =>
      unfold limitOnce at hNone
      split at hNone
      · cases hNone
      · cases hNone

end Checker

------------------------------------------------------------
-- Declared Names
------------------------------------------------------------

/- A type is declared, or it is one of actions. -/
def Schema.Recognizes
    (schema : Schema)
    (type : EntityType) : Prop :=
  type ∈ schema.entityTypes.keys ∨ type.isAction = true

/-
  A text is a literal of a kind of extension values. Decimals
  count ten thousandths and durations milliseconds, and these
  have to fit 64 bits.
-/
def ExtensionKind.Accepts : ExtensionKind → String → Prop
  | .decimal, text =>
      ∃ literal : Decimal.Literal,
        text.toList = literal.chars ∧
          -2 ^ 63 ≤ literal.value * 10 ^ 4 ∧
          literal.value * 10 ^ 4 ≤ 2 ^ 63 - 1
  | .ipaddr, text =>
      ∃ literal : IpAddr.Literal, text.toList = literal.chars
  | .datetime, text =>
      ∃ literal : Datetime.Literal, text.toList = literal.chars
  | .duration, text =>
      ∃ literal : Duration.Literal,
        text.toList = literal.chars ∧
          Duration.total literal.components ≤ 2 ^ 63 - 1

/- What a scope names is declared. -/
def ScopeConstraint.Declared
    (schema : Schema) : ScopeConstraint → Prop
  | .any => True
  | .eq uid => schema.Recognizes uid.type
  | .mem uid => schema.Recognizes uid.type
  | .is type => type ∈ schema.entityTypes.keys
  | .isIn type uid =>
      type ∈ schema.entityTypes.keys ∧ schema.Recognizes uid.type

/-
  What an expression names itself, apart from its parts, is
  declared. A function that exists has as many arguments as
  it takes, and a literal that a constructor is called with
  is one of its kind.
-/
def Expr.Declared
    (schema : Schema) : Expr → Prop
  | .lit (.entity uid) =>
      schema.Recognizes uid.type ∧
        (uid.type.isAction = true → uid ∈ schema.actions.keys)
  | .is _ type => schema.Recognizes type
  | .isIn _ type _ => schema.Recognizes type
  | .call function args =>
      ∀ signature, Signature.find? function = some signature →
        args.length = signature.args.length ∧
          ∀ kind text,
            signature.constructs = some kind →
              args = [.lit (.string text)] → kind.Accepts text
  | _ => True

/- No message means that a text was read. -/
theorem errorMessage?_eq_none_iff
    {ε α : Type}
    {message : ε → String}
    {result : Except ε α} :
    errorMessage? message result = none ↔
      ∃ a, result = .ok a := by
  cases result with
  | error e => simp [errorMessage?]
  | ok a => simp [errorMessage?]

/- There is no error exactly if a text is a literal. -/
theorem ExtensionKind.literalError?_eq_none_iff
    {kind : ExtensionKind}
    {text : String} :
    kind.literalError? text = none ↔ kind.Accepts text := by
  cases kind with
  | decimal =>
      exact
        errorMessage?_eq_none_iff.trans Decimal.exists_parse_eq_ok_iff
  | ipaddr =>
      refine errorMessage?_eq_none_iff.trans ⟨?_, ?_⟩
      · intro hRead
        rcases hRead with ⟨_, hParse⟩
        rcases IpAddr.parse_eq_ok_iff.mp hParse with ⟨literal, hText, _⟩
        exact ⟨literal, hText⟩
      · intro hLiteral
        rcases hLiteral with ⟨literal, hText⟩
        exact
          ⟨_, IpAddr.parse_eq_ok_iff.mpr ⟨literal, hText, rfl, rfl⟩⟩
  | datetime =>
      refine errorMessage?_eq_none_iff.trans ⟨?_, ?_⟩
      · intro hRead
        rcases hRead with ⟨_, hParse⟩
        rcases Datetime.parse_eq_ok_iff.mp hParse with
          ⟨literal, hText, _⟩
        exact ⟨literal, hText⟩
      · intro hLiteral
        rcases hLiteral with ⟨literal, hText⟩
        exact ⟨_, Datetime.parse_eq_ok_iff.mpr ⟨literal, hText, rfl⟩⟩
  | duration =>
      refine errorMessage?_eq_none_iff.trans ⟨?_, ?_⟩
      · intro hRead
        rcases hRead with ⟨_, hParse⟩
        rcases Duration.parse_eq_ok_iff.mp hParse with
          ⟨literal, hText, hRange, _⟩
        exact ⟨literal, hText, hRange⟩
      · intro hLiteral
        rcases hLiteral with ⟨literal, hText, hRange⟩
        exact
          ⟨_, Duration.parse_eq_ok_iff.mpr
            ⟨literal, hText, hRange, rfl⟩⟩

namespace Schema

variable {schema : Schema}

/- The check for types that may be types of actions. -/
theorem knowsTypeOrAction_iff
    {type : EntityType} :
    schema.knowsTypeOrAction type = true ↔
      schema.Recognizes type := by
  rw [knowsTypeOrAction, Bool.or_eq_true, knowsType_iff]
  rfl

/- A type that is not reported is declared. -/
theorem unlessDeclared_eq_nil_iff
    {type : EntityType} :
    schema.unlessDeclared type = [] ↔
      type ∈ schema.entityTypes.keys := by
  simp [unlessDeclared, ← knowsType_iff]

/- A type that is not reported is declared, or one of actions. -/
theorem unlessKnown_eq_nil_iff
    {type : EntityType} :
    schema.unlessKnown type = [] ↔ schema.Recognizes type := by
  simp [unlessKnown, ← knowsTypeOrAction_iff]

/- A scope without unknown types names what is declared. -/
theorem unknownTypes_eq_nil_iff
    {constraint : ScopeConstraint} :
    schema.unknownTypes constraint = [] ↔
      constraint.Declared schema := by
  cases constraint with
  | any => simp [unknownTypes, ScopeConstraint.Declared]
  | eq uid => exact unlessKnown_eq_nil_iff
  | mem uid => exact unlessKnown_eq_nil_iff
  | is type => exact unlessDeclared_eq_nil_iff
  | isIn type uid =>
      simp only [unknownTypes, List.append_eq_nil_iff,
        unlessDeclared_eq_nil_iff, unlessKnown_eq_nil_iff,
        ScopeConstraint.Declared]

/- Conditions without unknown types mention declared ones only. -/
theorem recognizes_of_occurs
    {policy : Policy}
    (hNone : schema.unknownConditionTypes policy = [])
    {clause : Clause}
    (hClause : clause ∈ policy.conditions)
    {e : Expr}
    (hOccurs : e.Occurs clause.body)
    {type : EntityType}
    (hType : e.mentionedType? = some type) :
    schema.Recognizes type := by
  rw [← knowsTypeOrAction_iff]
  cases hKnown : schema.knowsTypeOrAction type with
  | true => rfl
  | false =>
      have hMentioned :
          type ∈ schema.unknownConditionTypes policy := by
        unfold unknownConditionTypes
        rw [mem_distinct, List.mem_filter, List.mem_flatMap]
        refine ⟨⟨clause, hClause, ?_⟩, by simp [hKnown]⟩
        exact
          List.mem_filterMap.mpr
            ⟨e, hOccurs.mem_subexpressions, hType⟩
      rw [hNone] at hMentioned
      cases hMentioned

/- Groups without issues are declared. -/
theorem mem_actions_of_groupIssues
    {constraint : ActionConstraint}
    (hNone : schema.groupIssues constraint = [])
    {uid : EntityUid}
    (hUid : uid ∈ constraint.uids) :
    uid ∈ schema.actions.keys := by
  unfold groupIssues at hNone
  split at hNone
  · cases hNone
  · simp only [List.append_eq_nil_iff, List.map_eq_nil_iff,
      List.filter_eq_nil_iff] at hNone
    have hKnown := hNone.1 uid hUid
    rw [← knowsAction_iff]
    simpa using hKnown

/- The actions of a scope without issues are declared. -/
theorem mem_actions_of_actionIssues
    {constraint : ActionConstraint}
    (hNone : schema.actionIssues constraint = [])
    {uid : EntityUid}
    (hUid : uid ∈ constraint.uids) :
    uid ∈ schema.actions.keys := by
  cases constraint with
  | any => cases hUid
  | eq other =>
      rw [List.mem_singleton.mp hUid]
      cases hFound : schema.action? other with
      | none => simp [actionIssues, hFound] at hNone
      | some action =>
          exact Assoc.mem_keys_of_mem (Assoc.mem_of_find? hFound)
  | mem group => exact mem_actions_of_groupIssues hNone hUid
  | memSet groups => exact mem_actions_of_groupIssues hNone hUid

end Schema

namespace Checker.Passes

variable {checker : Checker}

/- An action that passes as a literal is declared. -/
theorem mem_actions
    {uid : EntityUid}
    (hPasses : checker.Passes (.lit (.entity uid)))
    (hAction : uid.type.isAction = true) :
    uid ∈ checker.schema.actions.keys := by
  rcases hPasses with ⟨position, level, hNone⟩
  rw [check_lit (guard_eq_false_of_check hNone), checkLiteral]
    at hNone
  rw [← Schema.knowsAction_iff]
  simpa [hAction] using hNone

/- The arguments of a call that passes are as many as expected. -/
theorem call
    {function : String}
    {args : List Expr}
    (hPasses : checker.Passes (.call function args))
    {signature : Signature}
    (hFound : Signature.find? function = some signature) :
    args.length = signature.args.length ∧
      literalIssues signature.constructs args = [] := by
  rcases hPasses with ⟨position, level, hNone⟩
  rw [check_call (guard_eq_false_of_check hNone)] at hNone
  have hHere := (List.append_eq_nil_iff.mp hNone).2
  rw [checkCall, hFound] at hHere
  simp only at hHere
  split at hHere
  · cases hHere
  · rename_i hCount
    exact
      ⟨(Decidable.not_not.mp hCount).symm,
        (List.append_eq_nil_iff.mp hHere).2⟩

end Checker.Passes

/- A literal that its constructor has no issue with is accepted. -/
theorem Checker.accepts_of_literalIssues
    {kind : ExtensionKind}
    {text : String}
    (hNone :
      literalIssues (some kind) [.lit (.string text)] = []) :
    kind.Accepts text := by
  rw [← ExtensionKind.literalError?_eq_none_iff]
  unfold literalIssues at hNone
  simp only at hNone
  split at hNone
  · cases hNone
  · assumption

/-
  What passes and mentions recognized types only names what
  is declared.
-/
theorem Expr.declared_of_passes
    {checker : Checker}
    {e : Expr}
    (hPasses : checker.Passes e)
    (hTypes :
      ∀ type, e.mentionedType? = some type →
        checker.schema.Recognizes type) :
    e.Declared checker.schema := by
  cases e with
  | lit value =>
      cases value with
      | entity uid =>
          exact ⟨hTypes uid.type rfl, hPasses.mem_actions⟩
      | _ => trivial
  | is arg type => exact hTypes type rfl
  | isIn arg type group => exact hTypes type rfl
  | call function args =>
      intro signature hFound
      rcases hPasses.call hFound with ⟨hCount, hLiteral⟩
      refine ⟨hCount, ?_⟩
      intro kind text hKind hArgs
      rw [hKind, hArgs] at hLiteral
      exact Checker.accepts_of_literalIssues hLiteral
  | _ => trivial

------------------------------------------------------------
-- Valid Policies
------------------------------------------------------------

/-
  A policy without issues names only what is declared: in
  its scope, and wherever something is named in one of its
  conditions.
-/
theorem mentions_declared_of_valid
    (validator : Validator)
    (guard : Guard)
    (policy : Policy)
    (hValid : validator.validatePolicies guard [policy] = []) :
    policy.principal.Declared validator.schema ∧
      policy.resource.Declared validator.schema ∧
      (∀ uid ∈ policy.action.uids,
        uid ∈ validator.schema.actions.keys) ∧
      ∀ clause ∈ policy.conditions,
        ∀ e : Expr, e.Occurs clause.body →
          e.Declared validator.schema := by
  have hIssues : validator.policyIssues guard policy = [] := by
    simpa [Validator.validatePolicies] using hValid
  unfold Validator.policyIssues at hIssues
  split at hIssues
  · rw [List.append_eq_nil_iff, List.append_eq_nil_iff] at hIssues
    rcases hIssues with ⟨⟨hScope, _⟩, hConditions⟩
    rw [Schema.scopeIssues, List.append_eq_nil_iff,
      List.append_eq_nil_iff] at hScope
    rcases hScope with ⟨⟨hTypes, hActions⟩, _⟩
    rw [Schema.typeIssues, List.map_eq_nil_iff,
      List.append_eq_nil_iff, List.append_eq_nil_iff] at hTypes
    rcases hTypes with ⟨⟨hPrincipal, hResource⟩, hMentioned⟩
    refine
      ⟨Schema.unknownTypes_eq_nil_iff.mp hPrincipal,
        Schema.unknownTypes_eq_nil_iff.mp hResource,
        fun _ hUid =>
          Schema.mem_actions_of_actionIssues hActions hUid, ?_⟩
    intro clause hClause e hOccurs
    rw [Checker.checkConditions_eq_limitOnce] at hConditions
    have hBody :=
      Checker.passes_of_checkClauses
        (Checker.eq_nil_of_limitOnce hConditions) hClause
    exact
      Expr.declared_of_passes (hBody.of_occurs hOccurs)
        fun _ hType =>
          Schema.recognizes_of_occurs hMentioned hClause hOccurs
            hType
  · cases hIssues

/- A desk with documents that users can view. -/
def deskSchema : Schema :=
  ⟨[(⟨"Doc"⟩, ⟨⟨"Doc"⟩, .anything, []⟩),
      (⟨"User"⟩, ⟨⟨"User"⟩, .anything, []⟩)],
    [(⟨⟨"Action"⟩, "view"⟩,
        ⟨⟨⟨"Action"⟩, "view"⟩, [⟨"User"⟩], [⟨"Doc"⟩],
          .anything, []⟩)],
    []⟩

/- The action to view documents. -/
def viewLiteral : Expr :=
  .lit (.entity ⟨⟨"Action"⟩, "view"⟩)

/- A range of addresses. -/
def deskRange : Expr :=
  .call "ip" [.lit (.string "10.0.0.0/8")]

/-
  The action stands in a record in a set, and the range is
  an argument of another call.
-/
def deskCondition : Expr :=
  .or
    (.binary .contains (.set [.record [("action", viewLiteral)]])
      (.record [("action", .var .action)]))
    (.call "isInRange" [.getAttr (.var .context) "ip", deskRange])

/- Users can view documents under the condition. -/
def deskPolicy : Policy :=
  ⟨⟨"desk"⟩, .permit, .is ⟨"User"⟩, .eq ⟨⟨"Action"⟩, "view"⟩,
    .is ⟨"Doc"⟩, [⟨.when, deskCondition⟩]⟩

/-
  The policy is valid, so the action in its condition is
  declared and the range accepted.
-/
theorem desk_mentions_declared :
    (Validator.mk deskSchema default).validatePolicies Guard.never
        [deskPolicy] = [] ∧
      deskPolicy.principal.Declared deskSchema ∧
      viewLiteral.Occurs deskCondition ∧
      viewLiteral.Declared deskSchema ∧
      deskRange.Occurs deskCondition ∧
      ExtensionKind.ipaddr.Accepts "10.0.0.0/8" := by
  have hValid :
      (Validator.mk deskSchema default).validatePolicies Guard.never
        [deskPolicy] = [] := by
    decide +kernel
  have hView : viewLiteral.Occurs deskCondition :=
    .tail
      (.tail
        (.tail (.single (.field List.mem_cons_self))
          (.element List.mem_cons_self))
        .left)
      .orLeft
  have hRange : deskRange.Occurs deskCondition :=
    .tail
      (.single (.arg (List.mem_cons_of_mem _ List.mem_cons_self)))
      .orRight
  rcases mentions_declared_of_valid (Validator.mk deskSchema default)
      Guard.never deskPolicy hValid with
    ⟨hPrincipal, _, _, hAll⟩
  have hConditions := hAll _ List.mem_cons_self
  have hCall : deskRange.Declared deskSchema :=
    hConditions deskRange hRange
  exact
    ⟨hValid, hPrincipal, hView, hConditions viewLiteral hView,
      hRange,
      (hCall (.constructor "ip" .ipaddr) rfl).2 .ipaddr
        "10.0.0.0/8" rfl rfl⟩

end PolicyCheck
