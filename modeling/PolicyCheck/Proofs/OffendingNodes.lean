import PolicyCheck.Proofs.FirstErrors
import PolicyCheck.Proofs.Mentions

/-
  The nodes of a document from which no value can be made. A
  node offends if it is null, or an extension escape of a
  function that makes no values, with an argument that is no
  string, or with one that is no literal of the kind. A
  value is refused for the first node that offends in it.

  Main declarations:
    * `Constructs`
    * `ValueDocument.Offends`
    * `ValueDocument.OffendsIn`
    * `ValueDocument.extensionValue_cases`
    * `ValueDocument.reports_toValue`
-/

namespace PolicyCheck

open Json (PathStep)

------------------------------------------------------------
-- Offending Nodes
------------------------------------------------------------

/-
  The functions of escapes that make values of a kind. IP
  addresses have two.
-/
inductive Constructs : String → ExtensionKind → Prop
  | ip : Constructs "ip" .ipaddr
  | ipaddr : Constructs "ipaddr" .ipaddr
  | decimal : Constructs "decimal" .decimal
  | datetime : Constructs "datetime" .datetime
  | duration : Constructs "duration" .duration

namespace ValueDocument

/-
  `node.Offends site e` means that no value can be made of a
  node itself, apart from its parts, and why: it is null, or
  an escape of a function that makes no values, or one with
  an argument that is no string, or no literal of the kind.
  The error of such a text has the message that its reader
  gives.
-/
inductive Offends
    (site : Site) : ValueDocument → ValueError → Prop
  | null :
      Offends site .null (.null site)
  | unknownFunction
      {function : String}
      {argument : ValueDocument}
      (hNone : ∀ kind, ¬ Constructs function kind) :
      Offends site (.extension function argument)
        (.unknownFunction site function)
  | argumentNotString
      {function : String}
      {argument : ValueDocument}
      {kind : ExtensionKind}
      (hKind : Constructs function kind)
      (hArgument : ∀ text, argument ≠ .string text) :
      Offends site (.extension function argument)
        (.argumentNotString site function)
  | invalidLiteral
      {function text reason : String}
      {kind : ExtensionKind}
      (hKind : Constructs function kind)
      (hRefused : ¬ kind.Accepts text)
      (hReason : kind.literalError? text = some reason) :
      Offends site (.extension function (.string text))
        (.invalidLiteral site function text reason)

/- An offending node of a document, by its place and its error. -/
def OffendsIn
    (site : Site)
    (d : ValueDocument)
    (path : List PathStep)
    (e : ValueError) : Prop :=
  ∃ node, d.At path node ∧ node.Offends site e

/- The signatures that make values are those of constructors. -/
theorem constructs_of_mem_all
    {signature : Signature}
    (hMem : signature ∈ Signature.all)
    {kind : ExtensionKind}
    (hMakes : signature.constructs = some kind) :
    Constructs signature.name kind := by
  have hAll :
      ∀ signature ∈ Signature.all,
        ∀ kind ∈ signature.constructs,
          Constructs signature.name kind := by
    simp [Signature.all, Signature.ipaddr, Signature.decimal,
      Signature.datetime, Signature.constructor, Signature.function,
      Constructs.ip, Constructs.decimal, Constructs.datetime,
      Constructs.duration]
  exact hAll signature hMem kind hMakes

/- The kind of a function is the one of the values it makes. -/
theorem constructedKind?_eq_some_iff
    {function : String}
    {kind : ExtensionKind} :
    constructedKind? function = some kind ↔
      Constructs function kind := by
  constructor
  · intro hKind
    by_cases hAlias : function = "ipaddr"
    · have hIp : constructedKind? "ipaddr" = some .ipaddr := rfl
      rw [hAlias, hIp] at hKind
      rw [hAlias, ← Option.some.inj hKind]
      exact .ipaddr
    · rcases Option.bind_eq_some_iff.mp hKind with
        ⟨signature, hFound, hMakes⟩
      rw [if_neg hAlias] at hFound
      have hName : signature.name = function := by
        simpa using List.find?_some hFound
      rw [← hName]
      exact
        constructs_of_mem_all (List.mem_of_find?_eq_some hFound)
          hMakes
  · intro hKind
    cases hKind with
    | ip => rfl
    | ipaddr => rfl
    | decimal => rfl
    | datetime => rfl
    | duration => rfl

/- What an escape gives, and what is wrong with it otherwise. -/
theorem extensionValue_cases
    (site : Site)
    (function : String)
    (argument : ValueDocument) :
    (∃ kind text, Constructs function kind ∧
        kind.Accepts text ∧ argument = .string text ∧
        extensionValue site function argument =
          .ok (.extension kind text)) ∨
      ∃ e, (extension function argument).Offends site e ∧
        extensionValue site function argument = .error e := by
  unfold extensionValue
  split
  · rename_i hNone
    refine Or.inr ⟨_, .unknownFunction ?_, rfl⟩
    intro kind hKind
    rw [constructedKind?_eq_some_iff.mpr hKind] at hNone
    cases hNone
  · rename_i kind hSome
    have hKind := constructedKind?_eq_some_iff.mp hSome
    split
    · rename_i text
      split
      · rename_i reason hReason
        have hRefused : ¬ kind.Accepts text := by
          rw [← ExtensionKind.literalError?_eq_none_iff, hReason]
          simp
        exact
          Or.inr ⟨_, .invalidLiteral hKind hRefused hReason, rfl⟩
      · rename_i hAccepted
        exact
          Or.inl
            ⟨kind, text, hKind,
              ExtensionKind.literalError?_eq_none_iff.mp hAccepted,
              rfl, rfl⟩
    · rename_i hOther
      exact Or.inr ⟨_, .argumentNotString hKind hOther, rfl⟩

/- An escape is refused exactly if it offends. -/
theorem extensionValue_eq_error_iff
    {site : Site}
    {function : String}
    {argument : ValueDocument}
    {e : ValueError} :
    extensionValue site function argument = .error e ↔
      (extension function argument).Offends site e := by
  constructor
  · intro hError
    rcases extensionValue_cases site function argument with
      ⟨kind, text, _, _, _, hOk⟩ | ⟨f, hOffends, hRefused⟩
    · rw [hOk] at hError
      cases hError
    · rw [hRefused] at hError
      rw [← Except.error.inj hError]
      exact hOffends
  · intro hOffends
    unfold extensionValue
    cases hOffends with
    | unknownFunction hNone =>
        cases hKind : constructedKind? function with
        | none => rfl
        | some kind =>
            exact
              absurd (constructedKind?_eq_some_iff.mp hKind)
                (hNone kind)
    | argumentNotString hKind hArgument =>
        rw [constructedKind?_eq_some_iff.mpr hKind]
        cases argument with
        | string text => exact absurd rfl (hArgument text)
        | _ => rfl
    | invalidLiteral hKind _ hReason =>
        rw [constructedKind?_eq_some_iff.mpr hKind]
        simp only [hReason]

------------------------------------------------------------
-- Reported Nodes
------------------------------------------------------------

/- The elements of a set are read one by one. -/
theorem toValues_eq_mapM
    (site : Site)
    (elements : List ValueDocument) :
    toValues site elements = elements.mapM (toValue site) := by
  induction elements with
  | nil => rfl
  | cons d rest ih =>
      rw [toValues, List.mapM_cons, ih]
      rfl

/- So are the attributes of a record. -/
theorem toAttrs_eq_mapM
    (site : Site)
    (attrs : Assoc String ValueDocument) :
    toAttrs site attrs =
      attrs.mapM fun binding =>
        (toValue site binding.2).map (Prod.mk binding.1) := by
  induction attrs with
  | nil => rfl
  | cons binding rest ih =>
      rw [toAttrs, List.mapM_cons, ih]
      cases toValue site binding.2 <;> rfl

/- What offends in a set offends in an element. -/
theorem offendsIn_set_iff
    {site : Site}
    {elements : List ValueDocument}
    {path : List PathStep}
    {e : ValueError} :
    (set elements).OffendsIn site path e ↔
      InItems (OffendsIn site) elements path e := by
  constructor
  · intro ⟨node, hAt, hOffends⟩
    cases hAt with
    | here => cases hOffends
    | item hPart hAt => exact .intro hPart ⟨node, hAt, hOffends⟩
  · intro hIn
    cases hIn with
    | intro hPart hBelow =>
        rcases hBelow with ⟨node, hAt, hOffends⟩
        exact ⟨node, .item hPart hAt, hOffends⟩

/- What offends in a record offends in an attribute. -/
theorem offendsIn_record_iff
    {site : Site}
    {attrs : Assoc String ValueDocument}
    {path : List PathStep}
    {e : ValueError} :
    (record attrs).OffendsIn site path e ↔
      InMembers (fun _ => OffendsIn site) attrs path e := by
  constructor
  · intro ⟨node, hAt, hOffends⟩
    cases hAt with
    | here => cases hOffends
    | member hPart hAt => exact .intro hPart ⟨node, hAt, hOffends⟩
  · intro hIn
    cases hIn with
    | intro hPart hBelow =>
        rcases hBelow with ⟨node, hAt, hOffends⟩
        exact ⟨node, .member hPart hAt, hOffends⟩

/- A document without parts can only offend itself. -/
theorem reports_of_leaf
    {site : Site}
    {d : ValueDocument}
    (hSet : ∀ elements, d ≠ .set elements)
    (hRecord : ∀ attrs, d ≠ .record attrs)
    (hOffends :
      ∀ e, d.toValue site = .error e ↔ d.Offends site e) :
    Reports (d.OffendsIn site) (d.toValue site) := by
  have hSelf :
      ∀ path e, d.OffendsIn site path e →
        path = [] ∧ d.toValue site = .error e := by
    intro path e ⟨node, hAt, hNode⟩
    rcases eq_of_at_leaf hSet hRecord hAt with ⟨hPath, rfl⟩
    exact ⟨hPath, (hOffends e).mpr hNode⟩
  cases hResult : d.toValue site with
  | ok v =>
      intro path e hIn
      have hError := (hSelf path e hIn).2
      rw [hResult] at hError
      cases hError
  | error e =>
      refine ⟨[], ⟨d, .here d, (hOffends e).mp hResult⟩, ?_⟩
      intro other f hIn
      rcases hSelf other f hIn with ⟨hPath, hError⟩
      rw [hResult] at hError
      exact Or.inl ⟨hPath, (Except.error.inj hError).symm⟩

/- A value is refused for the first node that offends in it. -/
theorem reports_toValue
    (site : Site)
    {d : ValueDocument}
    (hOrdered : d.Ordered) :
    Reports (d.OffendsIn site) (d.toValue site) := by
  -- Sets and records do not offend themselves, and report what
  -- their parts do.
  induction d using ValueDocument.induction with
  | set elements ih =>
      have hParts := ordered_set_iff.mp hOrdered
      rw [toValue, toValues_eq_mapM]
      apply Reports.map
      apply Reports.congr _ fun _ _ => offendsIn_set_iff
      apply reports_items
      intro d hElement
      exact ih d hElement (hParts d hElement)
  | record attrs ih =>
      have hTable := ordered_record_iff.mp hOrdered
      rw [toValue, toAttrs_eq_mapM]
      apply Reports.map
      apply Reports.congr _ fun _ _ => offendsIn_record_iff
      apply reports_members hTable.ascending
      intro binding hBinding
      apply Reports.map
      exact ih binding hBinding (hTable.values binding hBinding)
  | extension function argument =>
      apply reports_of_leaf (by simp) (by simp)
      intro e
      rw [toValue]
      exact extensionValue_eq_error_iff
  | null =>
      apply reports_of_leaf (by simp) (by simp)
      intro e
      rw [toValue]
      constructor
      · intro hError
        rw [← Except.error.inj hError]
        exact .null
      · intro hOffends
        cases hOffends
        rfl
  | _ =>
      apply reports_of_leaf (by simp) (by simp)
      intro e
      rw [toValue]
      constructor
      · intro hError
        cases hError
      · intro hOffends
        cases hOffends

end ValueDocument

end PolicyCheck
