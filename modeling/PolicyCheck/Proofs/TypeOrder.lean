import PolicyCheck.Proofs.CommonContext
import PolicyCheck.Proofs.Leniency
import PolicyCheck.Typing.Operand

/-
  The order in which sets of types are kept. Types are
  compared by their forms, and types of one form by what
  they are made of, record types by their attributes one
  after the other. This is a total order in which only equal
  types compare equal, so a set of two types does not depend
  on which of them is put in first.

  Main declarations:
    * `Ty.Alike`
    * `Ty.cmp_of_rank_ne`
    * `Ty.cmp_swap`
    * `Ty.cmp_lt_trans`
    * `Ty.Same`
    * `Ty.same_iff_eq`
    * `ascending_eq_of_mem_iff`
    * `types_totally_ordered`
-/

namespace PolicyCheck

------------------------------------------------------------
-- Forms
------------------------------------------------------------

namespace Ty

/- Two types have the same form. -/
inductive Alike : Ty → Ty → Prop where
  | same (a : Ty) : Alike a a
  | entity (a b : EntityType) : Alike (.entity a) (.entity b)
  | set (a b : Ty) : Alike (.set a) (.set b)
  | record (r s : RecordType) : Alike (.record r) (.record s)
  | extension (k l : ExtensionKind) :
      Alike (.extension k) (.extension l)

/- Types of the same rank have the same form. -/
theorem alike_of_rank
    {a b : Ty}
    (hRank : a.rank = b.rank) :
    Alike a b := by
  cases a with
  | entity a =>
      cases b with
      | entity b => exact .entity a b
      | _ => simp [rank] at hRank
  | set a =>
      cases b with
      | set b => exact .set a b
      | _ => simp [rank] at hRank
  | record r =>
      cases b with
      | record s => exact .record r s
      | _ => simp [rank] at hRank
  | extension k =>
      cases b with
      | extension l => exact .extension k l
      | _ => simp [rank] at hRank
  | _ => cases b <;> simp_all [rank, Alike.same]

/- Types of different forms are ordered by their forms. -/
theorem cmp_of_rank_ne
    {a b : Ty}
    (hRank : a.rank ≠ b.rank) :
    cmp a b = compare a.rank b.rank := by
  unfold cmp
  split
  · exact absurd rfl hRank
  · exact absurd rfl hRank
  · exact absurd rfl hRank
  · exact absurd rfl hRank
  · rfl

/- A type does not come before one of a lower rank. -/
theorem rank_le_of_cmp
    {a b : Ty}
    (hLt : cmp a b = .lt) :
    a.rank ≤ b.rank := by
  by_cases hRank : a.rank = b.rank
  · exact Nat.le_of_eq hRank
  · rw [cmp_of_rank_ne hRank, Nat.compare_eq_lt] at hLt
    exact Nat.le_of_lt hLt

------------------------------------------------------------
-- Either Direction
------------------------------------------------------------

/-
  Lists of attributes compare the other way round in the
  other direction, if their types do.
-/
theorem cmpAttrs_swap
    {as : List (String × Attribute Ty)}
    (hTypes :
      ∀ name a, (name, a) ∈ as →
        ∀ b, cmp a.type b = (cmp b a.type).swap)
    (bs : List (String × Attribute Ty)) :
    cmpAttrs as bs = (cmpAttrs bs as).swap := by
  induction as generalizing bs with
  | nil =>
      cases bs with
      | nil => simp [cmpAttrs]
      | cons _ _ => simp [cmpAttrs]
  | cons binding as ih =>
      rcases binding with ⟨j, a, p⟩
      cases bs with
      | nil => simp [cmpAttrs]
      | cons other bs =>
          rcases other with ⟨k, b, q⟩
          have hHere : cmp a b = (cmp b a).swap :=
            hTypes j ⟨a, p⟩ List.mem_cons_self b
          have hRest : cmpAttrs as bs = (cmpAttrs bs as).swap := by
            apply ih
            intro name declared hMem
            exact hTypes name declared (List.mem_cons_of_mem _ hMem)
          rw [cmpAttrs, cmpAttrs, Ordering.swap_then,
            Ordering.swap_then, Ordering.swap_then, ← hHere, ← hRest,
            ← Std.OrientedCmp.eq_swap, ← Std.OrientedCmp.eq_swap]

/- Types compare the other way round in the other direction. -/
theorem cmp_swap
    (a b : Ty) :
    cmp a b = (cmp b a).swap := by
  induction a using parts_induction generalizing b with
  | step a ih =>
      by_cases hRank : a.rank = b.rank
      · cases alike_of_rank hRank with
        | same =>
            rw [cmp_self]
            rfl
        | entity a b =>
            rw [cmp, cmp]
            exact Std.OrientedCmp.eq_swap
        | set a b =>
            rw [cmp, cmp]
            exact ih a List.mem_cons_self b
        | record r s =>
            have hAttrs :
                cmpAttrs r.attrs s.attrs =
                  (cmpAttrs s.attrs r.attrs).swap := by
              apply cmpAttrs_swap
              intro name declared hMem
              exact ih declared.type (mem_parts_of_mem hMem)
            rw [cmp, cmp, Ordering.swap_then, ← hAttrs,
              ← Std.OrientedCmp.eq_swap]
        | extension k l =>
            rw [cmp, cmp]
            exact Std.OrientedCmp.eq_swap
      · rw [cmp_of_rank_ne hRank, cmp_of_rank_ne (Ne.symm hRank)]
        exact Std.OrientedCmp.eq_swap

end Ty

------------------------------------------------------------
-- Transitivity
------------------------------------------------------------

/-
  Comparison by one thing and then by another is transitive
  if both are, provided that the first one is not changed by
  replacing what compares equal.
-/
theorem then_lt_trans
    {o₁ o₂ o₃ p₁ p₂ p₃ : Ordering}
    (hFirst : o₁ = .lt → o₂ = .lt → o₃ = .lt)
    (hLeft : o₁ = .eq → o₃ = o₂)
    (hRight : o₂ = .eq → o₃ = o₁)
    (hSecond : p₁ = .lt → p₂ = .lt → p₃ = .lt)
    (hLt : o₁.then p₁ = .lt)
    (hNext : o₂.then p₂ = .lt) :
    o₃.then p₃ = .lt := by
  rw [Ordering.then_eq_lt] at hLt hNext ⊢
  rcases hLt with hLt | ⟨hEq, hLt⟩
  · rcases hNext with hNext | ⟨hSame, _⟩
    · exact Or.inl (hFirst hLt hNext)
    · exact Or.inl ((hRight hSame).trans hLt)
  · rcases hNext with hNext | ⟨hSame, hNext⟩
    · exact Or.inl ((hLeft hEq).trans hNext)
    · exact Or.inr ⟨(hLeft hEq).trans hSame, hSecond hLt hNext⟩

/- The same where the first comparison is that of the library. -/
theorem compare_then_lt_trans
    {α : Type} [Ord α] [Std.TransOrd α] [Std.LawfulEqOrd α]
    {a b c : α}
    {p₁ p₂ p₃ : Ordering}
    (hSecond : p₁ = .lt → p₂ = .lt → p₃ = .lt)
    (hLt : (compare a b).then p₁ = .lt)
    (hNext : (compare b c).then p₂ = .lt) :
    (compare a c).then p₃ = .lt := by
  refine then_lt_trans ?_ ?_ ?_ hSecond hLt hNext
  · exact Std.TransCmp.lt_trans
  · intro hEq
    rw [Std.LawfulEqCmp.eq_of_compare hEq]
  · intro hEq
    rw [Std.LawfulEqCmp.eq_of_compare hEq]

namespace Ty

/- Lists of attributes are ordered, if their types are. -/
theorem cmpAttrs_lt_trans
    {as : List (String × Attribute Ty)}
    (hTypes :
      ∀ name a, (name, a) ∈ as →
        ∀ b c, cmp a.type b = .lt → cmp b c = .lt →
          cmp a.type c = .lt)
    {bs cs : List (String × Attribute Ty)}
    (hLt : cmpAttrs as bs = .lt)
    (hNext : cmpAttrs bs cs = .lt) :
    cmpAttrs as cs = .lt := by
  induction as generalizing bs cs with
  | nil =>
      cases cs with
      | nil => cases bs <;> simp [cmpAttrs] at hNext hLt
      | cons _ _ => simp [cmpAttrs]
  | cons binding as ih =>
      rcases binding with ⟨i, a, p⟩
      cases bs with
      | nil => simp [cmpAttrs] at hLt
      | cons other bs =>
          rcases other with ⟨j, b, q⟩
          cases cs with
          | nil => simp [cmpAttrs] at hNext
          | cons last cs =>
              rcases last with ⟨k, c, r⟩
              rw [cmpAttrs] at hLt hNext ⊢
              refine compare_then_lt_trans ?_ hLt hNext
              refine then_lt_trans ?_ ?_ ?_ ?_
              · exact hTypes i ⟨a, p⟩ List.mem_cons_self b c
              · intro hEq
                rw [eq_of_cmp a b hEq]
              · intro hEq
                rw [eq_of_cmp b c hEq]
              · apply compare_then_lt_trans
                apply ih
                intro name declared hMem
                exact
                  hTypes name declared (List.mem_cons_of_mem _ hMem)

/-
  What comes before something comes before all that this
  comes before. Only types of the same form need a proof;
  otherwise the ranks decide.
-/
theorem cmp_lt_trans
    (a b c : Ty)
    (hLt : cmp a b = .lt)
    (hNext : cmp b c = .lt) :
    cmp a c = .lt := by
  induction a using parts_induction generalizing b c with
  | step a ih =>
      have hFirst := rank_le_of_cmp hLt
      have hSecond := rank_le_of_cmp hNext
      by_cases hRank : a.rank = c.rank
      -- The rank in the middle is the same, so all forms are.
      · have hAlike : Alike a b := alike_of_rank (by omega)
        have hAlikeNext : Alike b c := alike_of_rank (by omega)
        cases hAlike with
        | same => exact hNext
        | entity a b =>
            cases hAlikeNext with
            | same => exact hLt
            | entity b c =>
                rw [cmp] at hLt hNext ⊢
                exact Std.TransCmp.lt_trans hLt hNext
        | set a b =>
            cases hAlikeNext with
            | same => exact hLt
            | set b c =>
                rw [cmp] at hLt hNext ⊢
                exact ih a List.mem_cons_self b c hLt hNext
        | record r s =>
            cases hAlikeNext with
            | same => exact hLt
            | record s t =>
                rw [cmp] at hLt hNext ⊢
                refine then_lt_trans ?_ ?_ ?_ ?_ hLt hNext
                · apply cmpAttrs_lt_trans
                  intro name declared hMem
                  exact ih declared.type (mem_parts_of_mem hMem)
                · intro hEq
                  rw [eq_of_cmpAttrs _ _ hEq]
                · intro hEq
                  rw [eq_of_cmpAttrs _ _ hEq]
                · exact Std.TransCmp.lt_trans
        | extension k l =>
            cases hAlikeNext with
            | same => exact hLt
            | extension l m =>
                rw [cmp] at hLt hNext ⊢
                exact Std.TransCmp.lt_trans hLt hNext
      · rw [cmp_of_rank_ne hRank, Nat.compare_eq_lt]
        omega

------------------------------------------------------------
-- The Order
------------------------------------------------------------

instance : Std.OrientedCmp cmp where
  eq_swap := cmp_swap _ _

instance : Std.LawfulEqCmp cmp where
  compare_self := cmp_self _
  eq_of_compare := eq_of_cmp _ _

instance : Std.TransCmp cmp where
  isLE_trans {a b c} hFirst hSecond := by
    rw [Ordering.isLE_iff_eq_lt_or_eq_eq] at hFirst hSecond ⊢
    rcases hFirst with hLt | hEq
    · rcases hSecond with hNext | hSame
      · exact Or.inl (cmp_lt_trans a b c hLt hNext)
      · rw [← eq_of_cmp b c hSame]
        exact Or.inl hLt
    · rw [eq_of_cmp a b hEq]
      exact hSecond

/- One type comes before another one in the order of types. -/
theorem lt_iff
    {a b : Ty} :
    a < b ↔ cmp a b = .lt :=
  Iff.rfl

instance : Std.Asymm (α := Ty) (· < ·) where
  asymm a b hLt hGt := by
    rw [lt_iff] at hLt hGt
    rw [cmp_swap, hGt] at hLt
    cases hLt

instance : Trans (α := Ty) (· < ·) (· < ·) (· < ·) where
  trans {a b c} hFirst hSecond := cmp_lt_trans a b c hFirst hSecond

instance : Std.Trichotomous (α := Ty) (· < ·) where
  trichotomous a b hNotLt hNotGt := by
    rw [lt_iff] at hNotLt hNotGt
    rw [cmp_swap] at hNotGt
    apply eq_of_cmp
    cases hCmp : cmp a b with
    | lt => exact absurd hCmp hNotLt
    | eq => rfl
    | gt =>
        rw [hCmp] at hNotGt
        exact absurd rfl hNotGt

------------------------------------------------------------
-- Structure
------------------------------------------------------------

/-
  Two types have the same structure: the same forms, names
  of entities and kinds, and in records the same attributes,
  with the same need of them, and the same openness.
-/
inductive Same : Ty → Ty → Prop where
  | bool : Same .bool .bool
  | long : Same .long .long
  | string : Same .string .string
  | entity {a b : EntityType} (hName : a.name = b.name) :
      Same (.entity a) (.entity b)
  | anyEntity : Same .anyEntity .anyEntity
  | set {a b : Ty} (hElement : Same a b) : Same (.set a) (.set b)
  | record {r s : RecordType}
      (hNames : ∀ name, name ∈ r.names ↔ name ∈ s.names)
      (hTypes :
        ∀ name a b, r.attr? name = some a → s.attr? name = some b →
          Same a.type b.type)
      (hNeeds :
        ∀ name a b, r.attr? name = some a → s.attr? name = some b →
          a.required = b.required)
      (hOpenness : r.openness = s.openness) :
      Same (.record r) (.record s)
  | extension {kind : ExtensionKind} :
      Same (.extension kind) (.extension kind)
  | unknown : Same .unknown .unknown
  | unspecified : Same .unspecified .unspecified

/- A type has its own structure. -/
theorem same_self
    (a : Ty) :
    Same a a := by
  induction a using parts_induction with
  | step a ih =>
      cases a with
      | set a => exact .set (ih a List.mem_cons_self)
      | record r =>
          refine .record (fun _ => Iff.rfl) ?_ ?_ rfl
          · intro name a b hA hB
            rw [← Option.some.inj (hA.symm.trans hB)]
            exact ih a.type (mem_parts_of_mem (Assoc.mem_of_find? hA))
          · intro name a b hA hB
            rw [← Option.some.inj (hA.symm.trans hB)]
      | bool => exact .bool
      | long => exact .long
      | string => exact .string
      | entity _ => exact .entity rfl
      | anyEntity => exact .anyEntity
      | extension _ => exact .extension
      | unknown => exact .unknown
      | unspecified => exact .unspecified

/- Ordered types with the same structure are equal. -/
theorem Same.eq
    {a b : Ty}
    (hSame : Same a b)
    (hA : a.Ordered)
    (hB : b.Ordered) :
    a = b := by
  induction hSame with
  | entity hName =>
      exact congrArg Ty.entity (congrArg EntityType.mk hName)
  | set _ ih =>
      rw [Ordered] at hA hB
      rw [ih hA hB]
  | @record r s hNames _ hNeeds hOpenness ih =>
      -- Ascending attributes are given by what is found by name.
      have hFind : ∀ name, r.attr? name = s.attr? name := by
        intro name
        cases hFirst : r.attr? name with
        | none =>
            have hLacking := Assoc.find?_eq_none_iff.mp hFirst
            rw [eq_comm]
            apply Assoc.find?_eq_none_iff.mpr
            exact fun hMem => hLacking ((hNames name).mpr hMem)
        | some a =>
            have hMem := Assoc.mem_of_find? hFirst
            have hName :=
              (hNames name).mp (Assoc.mem_keys_of_mem hMem)
            rcases Assoc.exists_find?_of_mem_keys hName with
              ⟨b, hSecond⟩
            have hType : a.type = b.type :=
              ih name a b hFirst hSecond
                (RecordOf.type_ordered_of_mem hA hMem)
                (RecordOf.type_ordered_of_mem hB
                  (Assoc.mem_of_find? hSecond))
            have hNeed := hNeeds name a b hFirst hSecond
            rw [RecordOf.attr?, hSecond]
            cases a
            cases b
            cases hType
            cases hNeed
            rfl
      rw [Ordered] at hA hB
      exact
        congrArg Ty.record
          (RecordOf.eq_of_parts
            (Assoc.ext_find? hA.1 hB.1 hFind) hOpenness)
  | _ => rfl

/- Ordered types have the same structure if they are equal. -/
theorem same_iff_eq
    {a b : Ty}
    (hA : a.Ordered)
    (hB : b.Ordered) :
    Same a b ↔ a = b := by
  constructor
  · intro hSame
    exact hSame.eq hA hB
  · rintro rfl
    exact same_self a

end Ty

------------------------------------------------------------
-- Sets Of Types
------------------------------------------------------------

section Ascending

variable {α : Type} [DecidableEq α] [LT α] [DecidableLT α]
variable [Std.Asymm (α := α) (· < ·)]
variable [Trans (α := α) (· < ·) (· < ·) (· < ·)]
variable [Std.Trichotomous (α := α) (· < ·)]

/- Lists with the same elements are sorted alike. -/
theorem ascending_eq_of_mem_iff
    {xs ys : List α}
    (hSame : ∀ x, x ∈ xs ↔ x ∈ ys) :
    ascending xs = ascending ys := by
  have hNodup (zs : List α) : (ascending zs).Nodup := by
    apply (pairwise_ascending zs).imp
    rintro a _ hLt rfl
    exact Std.Asymm.asymm a a hLt hLt
  apply List.Perm.eq_of_pairwise _ (pairwise_ascending xs)
    (pairwise_ascending ys)
  · rw [List.perm_ext_iff_of_nodup (hNodup xs) (hNodup ys)]
    intro x
    rw [mem_ascending, mem_ascending, hSame]
  · intro a b _ _ hLt hGt
    exact absurd hGt (Std.Asymm.asymm a b hLt)

/- A sorted pair has one element if its elements are equal. -/
theorem length_ascending_pair
    (a b : α) :
    (ascending [a, b]).length = 1 ↔ a = b := by
  constructor
  · intro hLength
    rcases List.length_eq_one_iff.mp hLength with ⟨x, hSingle⟩
    have hMem : ∀ y ∈ [a, b], y = x := by
      intro y hY
      rw [← mem_ascending, hSingle] at hY
      exact List.mem_singleton.mp hY
    rw [hMem a (by simp), hMem b (by simp)]
  · rintro rfl
    have hSame : ascending [a, a] = ascending [a] :=
      ascending_eq_of_mem_iff (by simp)
    rw [hSame]
    rfl

end Ascending

/-
  Types are totally ordered: each one is at most itself, two
  that are at most each other are equal, what is at most
  something is at most all that this is at most, and of any
  two types one is at most the other. Only equal types
  compare equal, which are those with the same structure. So
  the set of two types that an issue names is the same in
  both orders, and has one element if the types are equal.
-/
theorem types_totally_ordered :
    (∀ a : Ty, (Ty.cmp a a).isLE = true) ∧
    (∀ a b : Ty,
      (Ty.cmp a b).isLE = true → (Ty.cmp b a).isLE = true →
        a = b) ∧
    (∀ a b c : Ty,
      (Ty.cmp a b).isLE = true → (Ty.cmp b c).isLE = true →
        (Ty.cmp a c).isLE = true) ∧
    (∀ a b : Ty,
      (Ty.cmp a b).isLE = true ∨ (Ty.cmp b a).isLE = true) ∧
    (∀ a b : Ty,
      Ty.cmp a b = (Ty.cmp b a).swap ∧
        (Ty.cmp a b = .eq ↔ a = b)) ∧
    (∀ a b : Ty, a.Ordered → b.Ordered →
      (Ty.cmp a b = .eq ↔ Ty.Same a b)) ∧
    ∀ (a b : Ty) (hint : LubHint) (comparison : Comparison),
      Operand.incompatible a b hint comparison =
        Operand.incompatible b a hint comparison ∧
      ∃ types,
        Operand.incompatible a b hint comparison =
          .incompatibleTypes types hint comparison ∧
        (∀ ty, ty ∈ types ↔ ty = a ∨ ty = b) ∧
        types.Pairwise (fun s t => Ty.cmp s t = .lt) ∧
        (types.length = 1 ↔ a = b) := by
  refine ⟨?_, ?_, ?_, ?_, ?_, ?_, ?_⟩
  · intro a
    exact Std.ReflCmp.isLE_rfl
  · intro a b hFirst hSecond
    exact
      Ty.cmp_eq_iff.mp (Std.OrientedCmp.isLE_antisymm hFirst hSecond)
  · intro a b c
    exact Std.TransCmp.isLE_trans
  · intro a b
    rw [Ty.cmp_swap b a]
    cases Ty.cmp a b <;> simp
  · intro a b
    exact ⟨Ty.cmp_swap a b, Ty.cmp_eq_iff⟩
  · intro a b hA hB
    rw [Ty.cmp_eq_iff, Ty.same_iff_eq hA hB]
  · intro a b hint comparison
    have hSwapped : ascending [a, b] = ascending [b, a] :=
      ascending_eq_of_mem_iff (by simp [or_comm])
    refine ⟨?_, ascending [a, b], rfl, ?_, pairwise_ascending _, ?_⟩
    · rw [Operand.incompatible, Operand.incompatible, hSwapped]
    · intro ty
      simp [mem_ascending]
    · exact length_ascending_pair a b

/- A crate with a weight, and perhaps with more. -/
def openCrate : Ty :=
  .record ⟨[("weight", ⟨.set .long, true⟩)], .openAttributes⟩

/- A crate with a weight, and with nothing else. -/
def closedCrate : Ty :=
  .record ⟨[("weight", ⟨.set .long, true⟩)], .closedAttributes⟩

/- A crate that may have an owner too. -/
def ownedCrate : Ty :=
  .record
    ⟨[("owner", ⟨.entity ⟨"User"⟩, false⟩),
      ("weight", ⟨.set .long, true⟩)],
      .openAttributes⟩

/-
  The owner comes before the weight, and with the same
  attributes what is open comes before what is closed. The
  two crates that differ in nothing else are not the same.
-/
theorem crates_in_order :
    (Ty.cmp ownedCrate openCrate).isLE = true ∧
      (Ty.cmp openCrate closedCrate).isLE = true ∧
      (Ty.cmp ownedCrate closedCrate).isLE = true ∧
      openCrate.Ordered ∧ closedCrate.Ordered ∧
      ¬ Ty.Same openCrate closedCrate := by
  have hFirst : (Ty.cmp ownedCrate openCrate).isLE = true := by
    decide
  have hSecond : (Ty.cmp openCrate closedCrate).isLE = true := by
    decide
  have hOpen : openCrate.Ordered := by
    simp [openCrate, Ty.Ordered, Ty.OrderedAttrs, Assoc.Ascending,
      Assoc.keys]
  have hClosed : closedCrate.Ordered := by
    simp [closedCrate, Ty.Ordered, Ty.OrderedAttrs, Assoc.Ascending,
      Assoc.keys]
  rcases types_totally_ordered with
    ⟨_, _, hTrans, _, _, hStructure, _⟩
  refine
    ⟨hFirst, hSecond, hTrans _ _ _ hFirst hSecond, hOpen, hClosed,
      ?_⟩
  rw [← hStructure _ _ hOpen hClosed]
  decide

end PolicyCheck
