import PolicyCheck.Proofs.ValueRereading
import PolicyCheck.Value.Data

/-
  Where the parts of values stand. A place is given by the
  steps to it, from a whole to an element of a set or to an
  attribute of a record. The order of places is the one in
  which they are visited: a whole before its parts, elements
  as they are listed, and attributes by their names.

  Main declarations:
    * `Json.PathStep`
    * `Json.Earlier`
    * `InItems`
    * `InMembers`
    * `ValueDocument.At`
    * `Value.At`
    * `ValueDocument.Ordered`
    * `ValueDocument.ordered_of_decode`
    * `EntityDocument.ordered_of_decode`
-/

namespace PolicyCheck

------------------------------------------------------------
-- The Order Of Places
------------------------------------------------------------

namespace Json

/- One step into a whole: to an item, or to a member. -/
inductive PathStep where
  | item (index : Nat)
  | member (key : String)
deriving DecidableEq, Repr

/- One step leads to an earlier part of a whole than another. -/
def PathStep.Before : PathStep → PathStep → Prop
  | .item i, .item j => i < j
  | .member a, .member b => a < b
  | _, _ => False

/- Of two steps only one can lead to the earlier part. -/
theorem PathStep.before_asymm
    {step other : PathStep}
    (hBefore : step.Before other) :
    ¬ other.Before step := by
  cases step with
  | item i =>
      cases other with
      | item j => exact Nat.lt_asymm hBefore
      | member b => exact id
  | member a =>
      cases other with
      | item j => exact id
      | member b => exact String.lt_asymm hBefore

/-
  One place is visited before another: it holds the other,
  or it is in an earlier part of a whole that holds both.
-/
def Earlier
    (path other : List PathStep) : Prop :=
  List.Lex PathStep.Before path other

/- Of two places only one can be visited before the other. -/
theorem Earlier.asymm
    {path other : List PathStep}
    (hEarlier : Earlier path other) :
    ¬ Earlier other path :=
  List.lex_asymm PathStep.before_asymm hEarlier

end Json

open Json (PathStep)

------------------------------------------------------------
-- Lists And Tables
------------------------------------------------------------

section Containers

variable {α β γ : Type}

/- Something is at a place in an item of a list. -/
inductive InItems
    (inItem : α → List PathStep → γ → Prop)
    (items : List α) : List PathStep → γ → Prop
  | intro
      {index : Nat}
      {item : α}
      {path : List PathStep}
      {c : γ}
      (hItem : items[index]? = some item)
      (hIn : inItem item path c) :
      InItems inItem items (.item index :: path) c

/- Something is at a place in a value of a table. -/
inductive InMembers
    (inMember : String → α → List PathStep → γ → Prop)
    (table : Assoc String α) : List PathStep → γ → Prop
  | intro
      {name : String}
      {a : α}
      {path : List PathStep}
      {c : γ}
      (hMember : (name, a) ∈ table)
      (hIn : inMember name a path c) :
      InMembers inMember table (.member name :: path) c

/- Lists that are related have related elements at each index. -/
theorem exists_getElem?_of_forall₂
    {R : α → β → Prop}
    {items : List α}
    {others : List β}
    (hAll : List.Forall₂ R items others)
    {index : Nat}
    {item : α}
    (hItem : items[index]? = some item) :
    ∃ other, others[index]? = some other ∧ R item other := by
  induction hAll generalizing index with
  | nil => simp at hItem
  | @cons a b _ _ hFirst _ ih =>
      cases index with
      | zero =>
          rw [List.getElem?_cons_zero] at hItem
          rw [← Option.some.inj hItem]
          exact ⟨b, List.getElem?_cons_zero, hFirst⟩
      | succ index =>
          rw [List.getElem?_cons_succ] at hItem ⊢
          exact ih hItem

/- Related lists have the same in their items. -/
theorem inItems_iff_of_forall₂
    {R : α → β → Prop}
    {inItem : α → List PathStep → γ → Prop}
    {inOther : β → List PathStep → γ → Prop}
    {items : List α}
    {others : List β}
    (hAll : List.Forall₂ R items others)
    (hEach :
      ∀ a b, R a b → ∀ path c, inItem a path c ↔ inOther b path c)
    {path : List PathStep}
    {c : γ} :
    InItems inItem items path c ↔ InItems inOther others path c := by
  constructor
  · intro hIn
    cases hIn with
    | intro hItem hBelow =>
        rcases exists_getElem?_of_forall₂ hAll hItem with
          ⟨b, hOther, hRelated⟩
        exact .intro hOther ((hEach _ b hRelated _ c).mp hBelow)
  · intro hIn
    cases hIn with
    | intro hOther hBelow =>
        rcases exists_getElem?_of_forall₂ hAll.flip hOther with
          ⟨a, hItem, hRelated⟩
        exact .intro hItem ((hEach a _ hRelated _ c).mpr hBelow)

/- So have related tables in their values. -/
theorem inMembers_iff_of_forall₂
    {R : String × α → String × β → Prop}
    {inMember : String → α → List PathStep → γ → Prop}
    {inOther : String → β → List PathStep → γ → Prop}
    {table : Assoc String α}
    {others : Assoc String β}
    (hAll : List.Forall₂ R table others)
    (hEach :
      ∀ a b, R a b →
        a.1 = b.1 ∧
          ∀ path c, inMember a.1 a.2 path c ↔ inOther b.1 b.2 path c)
    {path : List PathStep}
    {c : γ} :
    InMembers inMember table path c ↔
      InMembers inOther others path c := by
  constructor
  · intro hIn
    cases hIn with
    | @intro name a _ _ hMember hBelow =>
        rcases List.mem_iff_getElem?.mp hMember with ⟨index, hItem⟩
        rcases exists_getElem?_of_forall₂ hAll hItem with
          ⟨⟨other, b⟩, hOther, hRelated⟩
        rcases hEach _ _ hRelated with ⟨hName, hSame⟩
        cases hName
        exact
          .intro (List.mem_of_getElem? hOther)
            ((hSame _ c).mp hBelow)
  · intro hIn
    cases hIn with
    | @intro other b _ _ hMember hBelow =>
        rcases List.mem_iff_getElem?.mp hMember with ⟨index, hOther⟩
        rcases exists_getElem?_of_forall₂ hAll.flip hOther with
          ⟨⟨name, a⟩, hItem, hRelated⟩
        rcases hEach _ _ hRelated with ⟨hName, hSame⟩
        cases hName
        exact
          .intro (List.mem_of_getElem? hItem)
            ((hSame _ c).mpr hBelow)

end Containers

------------------------------------------------------------
-- Places In Values
------------------------------------------------------------

/-
  `d.At path node` means that a document has a node at a
  place. The argument of an extension escape is no part.
-/
inductive ValueDocument.At :
    ValueDocument → List PathStep → ValueDocument → Prop
  | here
      (d : ValueDocument) :
      At d [] d
  | item
      {elements : List ValueDocument}
      {index : Nat}
      {part node : ValueDocument}
      {path : List PathStep}
      (hPart : elements[index]? = some part)
      (hAt : At part path node) :
      At (.set elements) (.item index :: path) node
  | member
      {attrs : List (String × ValueDocument)}
      {name : String}
      {part node : ValueDocument}
      {path : List PathStep}
      (hPart : (name, part) ∈ attrs)
      (hAt : At part path node) :
      At (.record attrs) (.member name :: path) node

/- `v.At path part` means that a value has a part at a place. -/
inductive Value.At : Value → List PathStep → Value → Prop
  | here
      (v : Value) :
      At v [] v
  | item
      {elements : List Value}
      {index : Nat}
      {part w : Value}
      {path : List PathStep}
      (hPart : elements[index]? = some part)
      (hAt : At part path w) :
      At (.set elements) (.item index :: path) w
  | member
      {attrs : List (String × Value)}
      {name : String}
      {part w : Value}
      {path : List PathStep}
      (hPart : (name, part) ∈ attrs)
      (hAt : At part path w) :
      At (.record attrs) (.member name :: path) w

namespace ValueDocument

/-
  What holds of a document if it holds of its elements, or
  of its attributes, holds of all documents.
-/
@[elab_as_elim]
theorem induction
    {P : ValueDocument → Prop}
    (entity : ∀ uid, P (.entity uid))
    (extension :
      ∀ function argument, P (.extension function argument))
    (bool : ∀ b, P (.bool b))
    (long : ∀ i, P (.long i))
    (string : ∀ s, P (.string s))
    (set : ∀ elements, (∀ d ∈ elements, P d) → P (.set elements))
    (record :
      ∀ attrs, (∀ binding ∈ attrs, P binding.2) →
        P (.record attrs))
    (null : P .null) :
    ∀ d, P d
  | .entity uid => entity uid
  | .extension function argument => extension function argument
  | .bool b => bool b
  | .long i => long i
  | .string s => string s
  | .set elements =>
      set elements fun d _ =>
        induction entity extension bool long string set record null d
  | .record attrs =>
      record attrs fun ⟨_, d⟩ _ =>
        induction entity extension bool long string set record null d
  | .null => null
termination_by d => sizeOf d
decreasing_by
  · rename_i hMem
    have hLt := List.sizeOf_lt_of_mem hMem
    simp only [ValueDocument.set.sizeOf_spec]
    omega
  · rename_i name hMem
    have hLt := List.sizeOf_lt_of_mem hMem
    simp only [Prod.mk.sizeOf_spec] at hLt
    simp only [ValueDocument.record.sizeOf_spec]
    omega

------------------------------------------------------------
-- Ordered Documents
------------------------------------------------------------

/- Every record in a document binds its attributes in order. -/
def Ordered
    (d : ValueDocument) : Prop :=
  ∀ path attrs, d.At path (.record attrs) →
    Assoc.Ascending attrs

/- A set is ordered if its elements are. -/
theorem ordered_set_iff
    {elements : List ValueDocument} :
    (set elements).Ordered ↔ ∀ d ∈ elements, d.Ordered := by
  constructor
  · intro hOrdered d hElement path attrs hAt
    rcases List.mem_iff_getElem?.mp hElement with ⟨index, hItem⟩
    exact hOrdered (.item index :: path) attrs (.item hItem hAt)
  · intro hEach path attrs hAt
    cases hAt with
    | item hPart hAt =>
        exact hEach _ (List.mem_of_getElem? hPart) _ attrs hAt

/- A record is ordered if its table and its attributes are. -/
theorem ordered_record_iff
    {attrs : Assoc String ValueDocument} :
    (record attrs).Ordered ↔ Json.TableOf Ordered attrs := by
  constructor
  · intro hOrdered
    refine ⟨hOrdered [] attrs (.here _), ?_⟩
    intro binding hBinding path inner hAt
    exact
      hOrdered (.member binding.1 :: path) inner
        (.member hBinding hAt)
  · intro hTable path inner hAt
    cases hAt with
    | here => exact hTable.ascending
    | member hPart hAt => exact hTable.values _ hPart _ inner hAt

/- What is neither a set nor a record has no parts. -/
theorem eq_of_at_leaf
    {d node : ValueDocument}
    (hSet : ∀ elements, d ≠ .set elements)
    (hRecord : ∀ attrs, d ≠ .record attrs)
    {path : List PathStep}
    (hAt : d.At path node) :
    path = [] ∧ node = d := by
  cases hAt with
  | here => exact ⟨rfl, rfl⟩
  | item => exact absurd rfl (hSet _)
  | member => exact absurd rfl (hRecord _)

/- So it has no records in it. -/
theorem ordered_of_leaf
    {d : ValueDocument}
    (hSet : ∀ elements, d ≠ .set elements)
    (hRecord : ∀ attrs, d ≠ .record attrs) :
    d.Ordered := by
  intro path attrs hAt
  rcases eq_of_at_leaf hSet hRecord hAt with ⟨_, hNode⟩
  exact absurd hNode.symm (hRecord attrs)

/- Documents that were read are ordered. -/
theorem ordered_of_decode
    {j : Json}
    {d : ValueDocument}
    (hOk : decode j = .ok d) :
    d.Ordered := by
  induction j using Json.parts_induction generalizing d with
  | step j ih =>
      cases j with
      | arr items =>
          rw [decode] at hOk
          rcases exists_ok_of_map hOk with ⟨elements, hItems, rfl⟩
          rw [decodeItems_eq_mapM] at hItems
          apply ordered_set_iff.mpr
          intro d hElement
          rcases exists_of_mem_mapM hItems hElement with
            ⟨item, hItem, hRead⟩
          exact ih item hItem hRead
      | obj members =>
          rcases cases_of_decode_obj hOk with
            ⟨uid, rfl⟩ | ⟨call, _, rfl⟩ | ⟨_, _, attrs, hAttrs, rfl⟩
          · exact ordered_of_leaf (by simp) (by simp)
          · exact ordered_of_leaf (by simp) (by simp)
          · apply ordered_record_iff.mpr
            exact
              Json.tableOf_asMap (fun part hPart _ => ih part hPart)
                hAttrs
      | num n =>
          cases n with
          | int i =>
              rw [decode, decodeLong] at hOk
              split at hOk
              · rw [← Except.ok.inj hOk]
                exact ordered_of_leaf (by simp) (by simp)
              · cases hOk
          | float x =>
              rw [decode] at hOk
              cases hOk
      | _ =>
          rw [decode] at hOk
          rw [← Except.ok.inj hOk]
          exact ordered_of_leaf (by simp) (by simp)

end ValueDocument

namespace EntityDocument

/- The attributes of an entity are ordered like a record. -/
def Ordered
    (d : EntityDocument) : Prop :=
  (ValueDocument.record d.attrs).Ordered

/- Entities that were read are ordered. -/
theorem ordered_of_decode
    {j : Json}
    {d : EntityDocument}
    (hOk : decode j = .ok d) :
    d.Ordered := by
  refine Json.Layout.decode_induct Ordered ?_ ?_ hOk
  · intro name j a b hSet hOrdered
    unfold setField at hSet
    split at hSet
    · rcases exists_ok_of_bind hSet with ⟨uid, _, hDone⟩
      rw [← Except.ok.inj hDone]
      exact hOrdered
    · split at hSet
      · rcases exists_ok_of_bind hSet with ⟨attrs, hAttrs, hDone⟩
        rw [← Except.ok.inj hDone]
        apply ValueDocument.ordered_record_iff.mpr
        refine Json.tableOf_asUniqueMap ?_ hAttrs
        intro j d hRead
        exact ValueDocument.ordered_of_decode hRead
      · rcases exists_ok_of_bind hSet with ⟨parents, _, hDone⟩
        rw [← Except.ok.inj hDone]
        exact hOrdered
  · exact ValueDocument.ordered_record_iff.mpr Json.tableOf_nil

end EntityDocument

end PolicyCheck
