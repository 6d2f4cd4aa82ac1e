import PolicyCheck.Proofs.Inlining
import PolicyCheck.Proofs.Tabulating

/-
  The common types of fragments, whichever of them were
  resolved before the rest: all are resolved exactly when
  none refers to itself, and then each stands for its own
  definition with all references inlined.

  Main declarations:
    * `CommonTypes.Reached`
    * `CommonTypes.Reached.inlines`
    * `CommonTypes.exists_ofFragments`
    * `common_types_are_inlined`
-/

namespace PolicyCheck

open Resolving

namespace CommonTypes

variable {declared : CommonTypes}

------------------------------------------------------------
-- Earlier Resolutions
------------------------------------------------------------

/-
  What may be remembered at some time: nothing at first, and
  then what specifications and names have added to it that
  were resolved without an error.
-/
inductive Reached
    (declared : CommonTypes) : Memo → Prop where
  | start : Reached declared []
  | spec
      {memo after : Memo}
      {ns : String}
      {spec : TypeSpec}
      {type : Ty}
      (hBefore : Reached declared memo)
      (hRun :
        (declared.type ns spec).run memo = .ok (type, after)) :
      Reached declared after
  | name
      {memo after : Memo}
      {name : String}
      {type? : Option Ty}
      (hBefore : Reached declared memo)
      (hRun :
        (declared.resolve [] name).run memo =
          .ok (type?, after)) :
      Reached declared after

/- Whatever is remembered at some time is right. -/
theorem Reached.inlines
    {memo : Memo}
    (hReached : declared.Reached memo) :
    declared.Inlines memo := by
  induction hReached with
  | start => exact Inlines.nil declared
  | spec _ hRun ih =>
      exact ((type_ends _ _ ih).ok _ _ hRun).1.inlines
  | @name memo after name type? _ hRun ih =>
      by_cases hName : name ∈ declared.keys
      · have hEnds := resolve_ends [] name hName (by simp) memo ih
        exact (hEnds.ok type? after hRun).1.inlines
      · rw [((resolve_of_not_mem ih hName).ok type? after hRun).2]
        exact ih

/- All names are resolved in the end exactly if none is on a cycle. -/
theorem exists_resolveAll_iff
    {memo : Memo}
    (hMemo : declared.Inlines memo) :
    (∃ types, declared.resolveAll.run' memo = .ok types) ↔
      ∀ name,
        ¬ Relation.TransGen declared.Refers name name := by
  have hEnds := resolveAll_ends hMemo
  constructor
  · rintro ⟨types, hOk⟩
    rcases run'_eq_ok_iff.mp hOk with ⟨after, hRun⟩
    exact (hEnds.ok types after hRun).not_transGen
  · intro hNone
    rcases hEnds.exists_ok fun e hCycle => by
        rcases hCycle with ⟨name, _, hCycle⟩
        exact hNone name hCycle with
      ⟨types, after, hRun, _⟩
    exact ⟨types, run'_eq_ok_iff.mpr ⟨after, hRun⟩⟩

/- What was resolved before has no influence on the outcome. -/
theorem resolveAll_eq_of_ok
    {memo other types : Memo}
    (hMemo : declared.Inlines memo)
    (hOther : declared.Inlines other)
    (hOk : declared.resolveAll.run' memo = .ok types) :
    declared.resolveAll.run' other = .ok types := by
  rcases run'_eq_ok_iff.mp hOk with ⟨after, hRun⟩
  have hTypes := (resolveAll_ends hMemo).ok types after hRun
  rcases (resolveAll_ends hOther).exists_ok hTypes.not_onCycle with
    ⟨found, last, hFound, hComplete⟩
  rw [hComplete.unique hTypes] at hFound
  exact run'_eq_ok_iff.mpr ⟨last, hFound⟩

/- Common types of different names can be declared together. -/
theorem exists_ofFragments
    {fragments : List Fragment}
    (hDistinct : (declarations fragments).keys.Nodup) :
    ∃ declared, ofFragments fragments = .ok declared := by
  rcases Assoc.exists_ascending_perm hDistinct with
    ⟨declared, hAscending, hPerm⟩
  exact
    ⟨declared, ofFragments_eq_ok_iff.mpr ⟨hAscending, hPerm⟩⟩

end CommonTypes

------------------------------------------------------------
-- Common Types Of Fragments
------------------------------------------------------------

/-
  Common types that are declared under different names are
  all resolved, whatever was resolved before, exactly when
  no chain of references leads from one back to itself. If
  it fails, the error names a common type with such a chain.
  If it succeeds, each common type has the type of its own
  definition, in which names of common types stand for their
  types and other names for entity types; earlier
  resolutions make no difference to that.
-/
theorem common_types_are_inlined
    {fragments : List Fragment}
    (hDistinct :
      (CommonTypes.declarations fragments).keys.Nodup) :
    ∃ declared,
      CommonTypes.ofFragments fragments = .ok declared ∧
        declared.Perm (CommonTypes.declarations fragments) ∧
        ∀ memo, declared.Reached memo →
          ((∃ types, declared.resolveAll.run' memo = .ok types) ↔
            ∀ name,
              ¬ Relation.TransGen declared.Refers name name) ∧
          (∀ e, declared.resolveAll.run' memo = .error e →
            ∃ name,
              e = .commonTypeCycle name ∧
                Relation.TransGen declared.Refers name name) ∧
          ∀ types, declared.resolveAll.run' memo = .ok types →
            (∀ name, name ∈ types.keys ↔ name ∈ declared.keys) ∧
              (∀ name ns spec,
                declared.find? name = some (ns, spec) →
                  types.find? name =
                    some
                      (spec.inlined (declared.meaning types ns)
                        ns)) ∧
              ∀ other, declared.Reached other →
                declared.resolveAll.run' other = .ok types := by
  rcases CommonTypes.exists_ofFragments hDistinct with
    ⟨declared, hDeclared⟩
  refine
    ⟨declared, hDeclared,
      (CommonTypes.ofFragments_eq_ok_iff.mp hDeclared).2, ?_⟩
  intro memo hReached
  have hMemo := hReached.inlines
  have hEnds := CommonTypes.resolveAll_ends hMemo
  refine ⟨CommonTypes.exists_resolveAll_iff hMemo, ?_, ?_⟩
  · intro e hError
    exact hEnds.error e (run'_eq_error_iff.mp hError)
  · intro types hOk
    rcases run'_eq_ok_iff.mp hOk with ⟨after, hRun⟩
    have hTypes := hEnds.ok types after hRun
    refine ⟨?_, fun _ _ _ hFound => hTypes.find?_eq hFound, ?_⟩
    · intro name
      exact ⟨fun hName => hTypes.mem_keys hName, hTypes.all name⟩
    · intro other hOther
      exact
        CommonTypes.resolveAll_eq_of_ok hMemo hOther.inlines hOk

/- A contact has a mail address. -/
def contactSpec : TypeSpec :=
  { (default : TypeSpec) with
    type := "Record"
    attributes := some [("mail", .named "String")] }

/-
  An order has a customer, and the contact who sends it. The
  name of the contact is marked as one.
-/
def orderSpec : TypeSpec :=
  { (default : TypeSpec) with
    type := "Record"
    attributes := some [
      ("customer", .named "Customer"),
      ("sender", { (default : TypeSpec) with
        type := "EntityOrCommon"
        name := some "Contact" })] }

/- A set of orders. -/
def ordersSpec : TypeSpec :=
  { (default : TypeSpec) with
    type := "Set"
    element := some (.named "Order") }

/-
  The orders of a shop are declared before one order, and
  the contact last and outside of the shop. A customer is no
  common type.
-/
def shopFragments : List Fragment :=
  [⟨[("Shop", { (default : NamespaceSpec) with
      commonTypes := [
        ("Orders", ordersSpec),
        ("Order", orderSpec)] })]⟩,
    ⟨[("", { (default : NamespaceSpec) with
      commonTypes := [("Contact", contactSpec)] })]⟩]

/- The common types of the shop. -/
def shopTypes : CommonTypes :=
  [("Contact", ("", contactSpec)),
    ("Shop::Order", ("Shop", orderSpec)),
    ("Shop::Orders", ("Shop", ordersSpec))]

/- The type of a contact. -/
def contactType : Ty :=
  .record ⟨[("mail", ⟨.string, true⟩)], .closedAttributes⟩

/- The type of an order. -/
def orderType : Ty :=
  .record
    ⟨[("customer", ⟨.entity ⟨"Shop::Customer"⟩, true⟩),
        ("sender", ⟨contactType, true⟩)],
      .closedAttributes⟩

/- The common types of the shop refer to shorter names only. -/
theorem shopTypes_refers_length_lt
    {name other : String}
    (hRefers : shopTypes.Refers name other) :
    other.length < name.length := by
  rcases hRefers with
    ⟨ns, spec, hFound, bare, hBare, hReferent⟩
  have hMem := Assoc.mem_of_find? hFound
  simp only [shopTypes, List.mem_cons, List.not_mem_nil, or_false,
    Prod.mk.injEq] at hMem
  rcases hMem with
    ⟨rfl, rfl, rfl⟩ | ⟨rfl, rfl, rfl⟩ | ⟨rfl, rfl, rfl⟩
  · have hNone : contactSpec.names = [] := rfl
    simp [hNone] at hBare
  · have hNames :
        orderSpec.names = ["Customer", "Contact"] := rfl
    simp only [hNames, List.mem_cons, List.not_mem_nil, or_false]
      at hBare
    rcases hBare with rfl | rfl
    · have hCustomer :
          shopTypes.referent? "Shop" "Customer" = none := by
        decide
      rw [hCustomer] at hReferent
      cases hReferent
    · have hContact :
          shopTypes.referent? "Shop" "Contact" = some "Contact" := by
        decide
      rw [hContact] at hReferent
      cases hReferent
      decide
  · have hNames : ordersSpec.names = ["Order"] := rfl
    simp only [hNames, List.mem_singleton] at hBare
    cases hBare
    have hOrder :
        shopTypes.referent? "Shop" "Order" = some "Shop::Order" := by
      decide
    rw [hOrder] at hReferent
    cases hReferent
    decide

/- So no common type of the shop is part of itself. -/
theorem shopTypes_not_transGen
    (name : String) :
    ¬ Relation.TransGen shopTypes.Refers name name := by
  intro hCycle
  have hShorter :
      ∀ first last,
        Relation.TransGen shopTypes.Refers first last →
          last.length < first.length := by
    intro first last hChain
    induction hChain with
    | single hRefers => exact shopTypes_refers_length_lt hRefers
    | tail _ hRefers ih =>
        exact Nat.lt_trans (shopTypes_refers_length_lt hRefers) ih
  exact Nat.lt_irrefl _ (hShorter name name hCycle)

/-
  The orders of a shop when the contact was resolved before:
  the name of an order is qualified, that of the contact is
  not, and the customer is an entity of the shop.
-/
theorem shop_types_are_inlined :
    (CommonTypes.declarations shopFragments).keys.Nodup ∧
      ∃ declared types,
        CommonTypes.ofFragments shopFragments = .ok declared ∧
          declared.Reached [("Contact", contactType)] ∧
          declared.resolveAll.run' [("Contact", contactType)] =
            .ok types ∧
          types.find? "Shop::Orders" = some (.set orderType) := by
  have hDistinct :
      (CommonTypes.declarations shopFragments).keys.Nodup := by
    decide
  have hShop :
      CommonTypes.ofFragments shopFragments = .ok shopTypes := by
    rfl
  rcases common_types_are_inlined hDistinct with
    ⟨declared, hDeclared, _, hAll⟩
  rw [hShop] at hDeclared
  cases hDeclared
  have hRun :
      (shopTypes.resolve [] "Contact").run [] =
        .ok (some contactType, [("Contact", contactType)]) := by
    rw [CommonTypes.resolve]
    rfl
  have hReached : shopTypes.Reached [("Contact", contactType)] :=
    .name .start hRun
  rcases hAll _ hReached with ⟨hIff, _, hTypes⟩
  rcases hIff.mpr shopTypes_not_transGen with ⟨types, hOk⟩
  rcases hTypes types hOk with ⟨_, hInlined, _⟩
  refine ⟨hDistinct, shopTypes, types, hShop, hReached, hOk, ?_⟩
  have hContact : types.find? "Contact" = some contactType :=
    hInlined "Contact" "" contactSpec rfl
  have hOrder : types.find? "Shop::Order" = some orderType := by
    have hSender :
        shopTypes.meaning types "Shop" "Contact" = contactType :=
      CommonTypes.meaning_of_find? (by decide) hContact
    have hCustomer :
        shopTypes.meaning types "Shop" "Customer" =
          .entity ⟨"Shop::Customer"⟩ :=
      CommonTypes.meaning_of_none (by decide)
    rw [hInlined "Shop::Order" "Shop" orderSpec rfl, orderType,
      ← hSender, ← hCustomer]
    rfl
  have hElement :
      shopTypes.meaning types "Shop" "Order" = orderType :=
    CommonTypes.meaning_of_find? (by decide) hOrder
  rw [hInlined "Shop::Orders" "Shop" ordersSpec rfl, ← hElement]
  rfl

end PolicyCheck
