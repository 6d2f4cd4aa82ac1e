import PolicyCheck.Proofs.CommonContext
import PolicyCheck.Proofs.CommonValues

/-
  The order of the operands of an equality. The check looks
  at them in turn: first at all attributes of one record,
  then at the names of the other one, and types fit in one
  direction only. Still the order does not matter, and no
  type is kept apart from itself. Both follow from what the
  check of two records comes to: attributes that they share
  could be equal, and neither of them is closed and declares
  more than the other.

  Main declarations:
    * `RecordOf.ClosedWithin`
    * `Ty.recordsClash_eq_none_iff_shared`
    * `Ty.recordsClash_comm`
    * `Ty.recordsClash_self`
    * `equality_ignores_operand_order`
-/

namespace PolicyCheck

------------------------------------------------------------
-- Both Sides Alike
------------------------------------------------------------

/- A closed record declares nothing that the other lacks. -/
def RecordOf.ClosedWithin
    (r s : RecordType) : Prop :=
  r.isOpen = false → ∀ name ∈ r.names, name ∈ s.names

namespace Ty

/- Compatibility asks for both directions. -/
theorem compatible_comm
    (a b : Ty) :
    compatible a b = compatible b a :=
  Bool.or_comm _ _

/-
  Values of two record types could be equal if those of the
  attributes they share could, and neither of them is closed
  and declares more. The two records play the same part here.
-/
theorem recordsClash_eq_none_iff_shared
    {r s : RecordType}
    (hNodup : r.names.Nodup) :
    recordsClash r s = none ↔
      (∀ name a b,
        r.attr? name = some a → s.attr? name = some b →
          couldEqual a.type b.type = true) ∧
        r.ClosedWithin s ∧ s.ClosedWithin r := by
  rw [recordsClash_eq_none_iff]
  constructor
  · intro hNone
    rcases hNone with ⟨hAttrs, hWidth⟩
    refine ⟨?_, ?_, hWidth⟩
    · intro name a b hA hB
      exact (hAttrs name a (Assoc.mem_of_find? hA)).1 b hB
    · intro hClosed name hName
      rcases Assoc.exists_find?_of_mem_keys hName with ⟨a, hA⟩
      apply Decidable.byContradiction
      intro hLacking
      have hOpen : r.isOpen = true :=
        (hAttrs name a (Assoc.mem_of_find? hA)).2
          (Assoc.find?_eq_none_iff.mpr hLacking)
      rw [hClosed] at hOpen
      cases hOpen
  · intro hBoth
    rcases hBoth with ⟨hShared, hFirst, hSecond⟩
    refine ⟨?_, hSecond⟩
    intro name a hMem
    refine ⟨?_, ?_⟩
    · intro b hB
      exact hShared name a b (Assoc.find?_of_mem hNodup hMem) hB
    · intro hLacking
      rw [← Bool.not_eq_false]
      intro hClosed
      exact Assoc.find?_eq_none_iff.mp hLacking
        (hFirst hClosed name (Assoc.mem_keys_of_mem hMem))

/- Types that are not both records only have to be compatible. -/
theorem couldEqual_of_other
    {a b : Ty}
    (hOther : ∀ r s, a = .record r → b ≠ .record s) :
    couldEqual a b = compatible a b := by
  rw [couldEqual]
  exact hOther

/- If the order does not matter for records, it never does. -/
theorem couldEqual_comm_of_records
    {a b : Ty}
    (hRecords :
      ∀ r s, a = .record r → b = .record s →
        (recordsClash r s = none ↔ recordsClash s r = none)) :
    couldEqual a b = couldEqual b a := by
  by_cases hBoth : ∃ r s, a = .record r ∧ b = .record s
  · rcases hBoth with ⟨r, s, rfl, rfl⟩
    rw [couldEqual, couldEqual, Bool.eq_iff_iff,
      Option.isNone_iff_eq_none, Option.isNone_iff_eq_none]
    exact hRecords r s rfl rfl
  · rw [couldEqual_of_other, couldEqual_of_other, compatible_comm]
    · intro s r hB hA
      exact hBoth ⟨r, s, hA, hB⟩
    · intro r s hA hB
      exact hBoth ⟨r, s, hA, hB⟩

------------------------------------------------------------
-- Either Order, And The Same Type Twice
------------------------------------------------------------

/-
  Whether two record types clash does not depend on which
  one comes first. The induction goes into the attributes
  that are records in both.
-/
theorem recordsClash_comm
    (r s : RecordType)
    (hFirst : (Ty.record r).Ordered)
    (hSecond : (Ty.record s).Ordered) :
    recordsClash r s = none ↔ recordsClash s r = none := by
  induction r using RecordOf.nested_induction generalizing s with
  | step r ih =>
      have hShared :
          ∀ name a b,
            r.attr? name = some a → s.attr? name = some b →
              couldEqual a.type b.type =
                couldEqual b.type a.type := by
        intro name a b hA hB
        have hInR := Assoc.mem_of_find? hA
        have hInS := Assoc.mem_of_find? hB
        apply couldEqual_comm_of_records
        intro t u hT hU
        apply ih name a t hInR hT u
        · rw [← hT]
          exact RecordOf.type_ordered_of_mem hFirst hInR
        · rw [← hU]
          exact RecordOf.type_ordered_of_mem hSecond hInS
      rw [recordsClash_eq_none_iff_shared
          (RecordOf.names_nodup hFirst),
        recordsClash_eq_none_iff_shared
          (RecordOf.names_nodup hSecond),
        and_comm (a := s.ClosedWithin r)]
      refine and_congr_left' ?_
      constructor
      · intro hEqual name b a hB hA
        rw [← hShared name a b hA hB]
        exact hEqual name a b hA hB
      · intro hEqual name a b hA hB
        rw [hShared name a b hA hB]
        exact hEqual name b a hB hA

/- No record type clashes with itself. -/
theorem recordsClash_self
    (r : RecordType)
    (hOrdered : (Ty.record r).Ordered) :
    recordsClash r r = none := by
  induction r using RecordOf.nested_induction with
  | step r ih =>
      rw [recordsClash_eq_none_iff_shared
        (RecordOf.names_nodup hOrdered)]
      refine ⟨?_, fun _ _ hName => hName, fun _ _ hName => hName⟩
      intro name a b hA hB
      obtain rfl : a = b := Option.some.inj (hA.symm.trans hB)
      have hMem := Assoc.mem_of_find? hA
      have hType := RecordOf.type_ordered_of_mem hOrdered hMem
      by_cases hRecord : ∃ t, a.type = .record t
      · rcases hRecord with ⟨t, hT⟩
        rw [hT] at hType
        rw [hT, couldEqual, ih name a t hMem hT hType]
        rfl
      · have hFits := fits_refl a.type hType
        rw [couldEqual_of_other, compatible, hFits]
        · rfl
        · intro t _ hT
          exact absurd ⟨t, hT⟩ hRecord

end Ty

------------------------------------------------------------
-- Equalities
------------------------------------------------------------

/- Comparability asks for both directions. -/
theorem Category.comparable_comm
    (a b : Category) :
    a.comparable b = b.comparable a := by
  rw [Bool.eq_iff_iff]
  simp only [comparable, Bool.or_eq_true, decide_eq_true_eq]
  constructor
  · intro hComparable
    rcases hComparable with (hA | hB) | hSame
    · exact Or.inl (Or.inr hA)
    · exact Or.inl (Or.inl hB)
    · exact Or.inr hSame.symm
  · intro hComparable
    rcases hComparable with (hB | hA) | hSame
    · exact Or.inl (Or.inr hB)
    · exact Or.inl (Or.inl hA)
    · exact Or.inr hSame.symm

/-
  The check of an equality accepts two types in both orders
  or in none, and it accepts a type and itself.
-/
theorem equality_ignores_operand_order :
    (∀ r s : RecordType,
      (Ty.record r).Ordered → (Ty.record s).Ordered →
        (Ty.recordsClash r s = none ↔ Ty.recordsClash s r = none) ∧
          Ty.recordsClash r r = none) ∧
      ∀ (schema : Schema) (a b : Ty), a.Ordered → b.Ordered →
        (schema.equalityIssues a b ≠ [] ↔
          schema.equalityIssues b a ≠ []) ∧
          schema.equalityIssues a a = [] := by
  refine ⟨?_, ?_⟩
  · intro r s hR hS
    exact ⟨Ty.recordsClash_comm r s hR hS, Ty.recordsClash_self r hR⟩
  · intro schema a b hA hB
    refine ⟨not_congr ?_, ?_⟩
    · rw [Schema.equalityIssues_eq_nil_iff,
        Schema.equalityIssues_eq_nil_iff, Category.comparable_comm]
      refine and_congr_right' ?_
      constructor
      · rintro hTogether s r rfl rfl
        rw [← Ty.recordsClash_comm r s hA hB]
        exact hTogether r s rfl rfl
      · rintro hTogether r s rfl rfl
        rw [Ty.recordsClash_comm r s hA hB]
        exact hTogether s r rfl rfl
    · rw [Schema.equalityIssues_eq_nil_iff]
      refine ⟨by simp [Category.comparable], ?_⟩
      rintro r _ rfl ⟨⟩
      exact Ty.recordsClash_self r hA

/- A parcel with a size, and perhaps with a note in its label. -/
def labelledParcel : RecordType :=
  ⟨[("label",
      ⟨.record ⟨[("note", ⟨.string, false⟩)], .openAttributes⟩,
        true⟩),
    ("size", ⟨.long, true⟩)],
    .openAttributes⟩

/- A parcel of which the label says at most how often it was sent. -/
def countedParcel : RecordType :=
  ⟨[("label",
      ⟨.record ⟨[("sent", ⟨.long, false⟩)], .closedAttributes⟩,
        true⟩)],
    .closedAttributes⟩

/-
  The label of one parcel is closed and declares what that of
  the other lacks, so the parcels are kept apart, whichever
  of them is named first.
-/
theorem parcels_kept_apart_in_either_order :
    (Ty.record labelledParcel).Ordered ∧
      (Ty.record countedParcel).Ordered ∧
      Ty.recordsClash labelledParcel labelledParcel = none ∧
      Schema.empty.equalityIssues (.record labelledParcel)
        (.record countedParcel) ≠ [] ∧
      Schema.empty.equalityIssues (.record countedParcel)
        (.record labelledParcel) ≠ [] := by
  have hNames : Assoc.Ascending labelledParcel.attrs := by
    unfold Assoc.Ascending
    decide
  have hLabelled : (Ty.record labelledParcel).Ordered := by
    rw [Ty.Ordered]
    refine ⟨hNames, ?_⟩
    simp [labelledParcel, Ty.Ordered, Ty.OrderedAttrs,
      Assoc.Ascending, Assoc.keys]
  have hCounted : (Ty.record countedParcel).Ordered := by
    simp [countedParcel, Ty.Ordered, Ty.OrderedAttrs,
      Assoc.Ascending, Assoc.keys]
  have hApart :
      Schema.empty.equalityIssues (.record labelledParcel)
        (.record countedParcel) ≠ [] := by
    decide
  exact
    ⟨hLabelled, hCounted,
      (equality_ignores_operand_order.1 labelledParcel countedParcel
        hLabelled hCounted).2,
      hApart,
      (equality_ignores_operand_order.2 Schema.empty
        (.record labelledParcel) (.record countedParcel)
        hLabelled hCounted).1.mp hApart⟩

end PolicyCheck
