import PolicyCheck.Ty.Basic

/-
  This file defines the order on types in which sets of
  types are printed. Types of different forms are ordered
  by their form; record types are ordered by their lists of
  attributes, then open before closed.

  Key definitions include:
    * `Ty.rank`
    * `Ty.cmp`
    * `Ty.cmpAttrs`
    * `Ty.cmp_eq_iff`
-/

namespace PolicyCheck

------------------------------------------------------------
-- Comparison
------------------------------------------------------------

/- The place of a kind among the kinds. -/
def ExtensionKind.rank : ExtensionKind → Nat
  | .decimal => 0
  | .ipaddr => 1
  | .datetime => 2
  | .duration => 3

/- Open records come before closed ones. -/
def Openness.rank : Openness → Nat
  | .openAttributes => 0
  | .closedAttributes => 1

namespace Ty

/- The place of a form of type among the forms. -/
def rank : Ty → Nat
  | .bool => 0
  | .long => 1
  | .string => 2
  | .entity _ => 3
  | .anyEntity => 4
  | .set _ => 5
  | .record _ => 6
  | .extension _ => 7
  | .unknown => 8
  | .unspecified => 9

mutual

/- Compare two types. -/
def cmp : Ty → Ty → Ordering
  | .entity a, .entity b => compare a.name b.name
  | .set a, .set b => cmp a b
  | .record ⟨as, a⟩, .record ⟨bs, b⟩ =>
      (cmpAttrs as bs).then (compare a.rank b.rank)
  | .extension a, .extension b => compare a.rank b.rank
  | a, b => compare a.rank b.rank

/-
  Compare two lists of attributes: by the first attribute
  in which they differ, in name, type or need, and if there
  is none by their lengths.
-/
def cmpAttrs :
    List (String × Attribute Ty) →
      List (String × Attribute Ty) → Ordering
  | [], [] => .eq
  | [], _ :: _ => .lt
  | _ :: _, [] => .gt
  | (j, ⟨a, p⟩) :: as, (k, ⟨b, q⟩) :: bs =>
      (compare j k).then
        ((cmp a b).then ((compare p q).then (cmpAttrs as bs)))

end

------------------------------------------------------------
-- Equality
------------------------------------------------------------

/- Kinds of the same rank are the same. -/
theorem rank_kind_inj
    {a b : ExtensionKind}
    (h : a.rank = b.rank) : a = b := by
  cases a <;> cases b <;> simp_all [ExtensionKind.rank]

/- Opennesses of the same rank are the same. -/
theorem rank_openness_inj
    {a b : Openness}
    (h : a.rank = b.rank) : a = b := by
  cases a <;> cases b <;> simp_all [Openness.rank]

mutual

/- A type compares equal to itself. -/
theorem cmp_self : (a : Ty) → cmp a a = .eq
  | .bool => by simp [cmp, rank]
  | .long => by simp [cmp, rank]
  | .string => by simp [cmp, rank]
  | .entity _ => by simp [cmp]
  | .anyEntity => by simp [cmp, rank]
  | .set a => by simpa [cmp] using cmp_self a
  | .record ⟨as, _⟩ => by
      simpa [cmp] using cmpAttrs_self as
  | .extension _ => by simp [cmp]
  | .unknown => by simp [cmp, rank]
  | .unspecified => by simp [cmp, rank]

/- A list of attributes compares equal to itself. -/
theorem cmpAttrs_self :
    (as : List (String × Attribute Ty)) →
      cmpAttrs as as = .eq
  | [] => by simp [cmpAttrs]
  | (_, ⟨a, _⟩) :: as => by
      simp [cmpAttrs, cmp_self a, cmpAttrs_self as]

end

mutual

/- Types that compare equal are equal. -/
theorem eq_of_cmp :
    (a b : Ty) → cmp a b = .eq → a = b
  | .set a, b, h => by
      cases b with
      | set b => rw [eq_of_cmp a b (by simpa [cmp] using h)]
      | _ => simp [cmp, rank] at h
  | .record ⟨as, a⟩, b, h => by
      cases b with
      | record b =>
          have hBoth :
              cmpAttrs as b.attrs = .eq ∧
                a.rank = b.openness.rank := by
            simpa [cmp] using h
          rw [eq_of_cmpAttrs as b.attrs hBoth.1,
            rank_openness_inj hBoth.2]
      | _ => simp [cmp, rank] at h
  | .entity ⟨a⟩, b, h => by cases b <;> simp_all [cmp, rank]
  | .extension a, b, h => by
      cases b with
      | extension b =>
          have hRank : a.rank = b.rank := by simpa [cmp] using h
          rw [rank_kind_inj hRank]
      | _ => simp [cmp, rank] at h
  | .bool, b, h => by cases b <;> simp_all [cmp, rank]
  | .long, b, h => by cases b <;> simp_all [cmp, rank]
  | .string, b, h => by cases b <;> simp_all [cmp, rank]
  | .anyEntity, b, h => by cases b <;> simp_all [cmp, rank]
  | .unknown, b, h => by cases b <;> simp_all [cmp, rank]
  | .unspecified, b, h => by cases b <;> simp_all [cmp, rank]

/- Lists of attributes that compare equal are equal. -/
theorem eq_of_cmpAttrs :
    (as bs : List (String × Attribute Ty)) →
      cmpAttrs as bs = .eq → as = bs
  | [], [], _ => rfl
  | [], _ :: _, h => by simp [cmpAttrs] at h
  | _ :: _, [], h => by simp [cmpAttrs] at h
  | (j, ⟨a, p⟩) :: as, (k, ⟨b, q⟩) :: bs, h => by
      have hAll :
          j = k ∧ cmp a b = .eq ∧ p = q ∧ cmpAttrs as bs = .eq := by
        simpa [cmpAttrs] using h
      rw [hAll.1, eq_of_cmp a b hAll.2.1, hAll.2.2.1,
        eq_of_cmpAttrs as bs hAll.2.2.2]

end

/- Two types compare equal exactly when they are equal. -/
theorem cmp_eq_iff
    {a b : Ty} : cmp a b = .eq ↔ a = b := by
  constructor
  · exact eq_of_cmp a b
  · rintro rfl
    exact cmp_self a

instance : DecidableEq Ty :=
  fun _ _ => decidable_of_iff _ cmp_eq_iff

instance : LT Ty where
  lt a b := cmp a b = .lt

instance : DecidableLT Ty :=
  fun a b => inferInstanceAs (Decidable (cmp a b = .lt))

end Ty

end PolicyCheck
