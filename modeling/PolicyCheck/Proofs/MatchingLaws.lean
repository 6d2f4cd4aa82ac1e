import PolicyCheck.Proofs.SetLiterals

/-
  Laws of fitting and of unification. Every type fits itself,
  and what is known of two types fits both of them, be it
  one of the two or nothing at all. In general a fit cannot
  be followed by another one: whatever is unknown fits
  everything, an entity of some type fits all types of
  entities, and an attribute that is not required can be
  left out and then come back with another type. Where none
  of this occurs, at whatever depth, fitting is transitive.

  Main declarations:
    * `Ty.definite`
    * `Ty.cases_of_fits`
    * `Ty.fits_trans`
    * `Ty.fits_unify_left`
    * `unified_type_fits_both`
-/

namespace PolicyCheck

namespace Ty

------------------------------------------------------------
-- Definite Types
------------------------------------------------------------

mutual

/-
  Nothing in a type is unknown or left open: no type that
  stands for several ones, and no attribute that may be
  absent.
-/
def definite : Ty → Bool
  | .set element => definite element
  | .record ⟨attrs, _⟩ => definiteAttrs attrs
  | .anyEntity => false
  | .unknown => false
  | .unspecified => false
  | _ => true

/- All attributes are required, and have definite types. -/
def definiteAttrs : List (String × Attribute Ty) → Bool
  | [] => true
  | (_, ⟨type, required⟩) :: rest =>
      required && definite type && definiteAttrs rest

end

/- Attributes are definite when each of them is. -/
theorem definiteAttrs_iff
    {attrs : List (String × Attribute Ty)} :
    definiteAttrs attrs = true ↔
      ∀ name declared, (name, declared) ∈ attrs →
        declared.required = true ∧
          declared.type.definite = true := by
  induction attrs with
  | nil => simp [definiteAttrs]
  | cons binding rest ih =>
      rcases binding with ⟨name, type, required⟩
      rw [definiteAttrs, Bool.and_eq_true, Bool.and_eq_true, ih]
      constructor
      · intro hBoth other declared hMem
        rcases List.mem_cons.mp hMem with hFirst | hRest
        · rcases Prod.mk.inj hFirst with ⟨rfl, rfl⟩
          exact hBoth.1
        · exact hBoth.2 other declared hRest
      · intro hAll
        constructor
        · exact hAll name ⟨type, required⟩ List.mem_cons_self
        · intro other declared hMem
          exact hAll other declared (List.mem_cons_of_mem _ hMem)

/- Of what is definite something is known. -/
theorem isUnknown_of_definite
    {a : Ty}
    (hDefinite : a.definite = true) :
    a.isUnknown = false := by
  cases a <;> simp_all [definite, isUnknown]

------------------------------------------------------------
-- Transitivity
------------------------------------------------------------

/- What fits a set type is a set type, or unknown. -/
theorem fits_set_iff
    {a c : Ty} :
    fits (.set a) c = true ↔
      c.isUnknown = true ∨ ∃ b, c = .set b ∧ fits a b = true := by
  cases c <;> simp [fits, isUnknown]

/- What fits a record type is a record type, or unknown. -/
theorem fits_record_iff
    {r : RecordType}
    {c : Ty} :
    fits (.record r) c = true ↔
      c.isUnknown = true ∨
        ∃ s, c = .record s ∧ fitsAttrs r.attrs s.attrs = true := by
  cases c <;> simp [fits, isUnknown]

/-
  Definite types that fit are equal, or they are both set
  types or both record types.
-/
theorem cases_of_fits
    {a b : Ty}
    (hA : a.definite = true)
    (hB : b.definite = true)
    (hFits : fits a b = true) :
    a = b ∨
      (∃ x y, a = .set x ∧ b = .set y ∧ fits x y = true) ∨
      ∃ r s, a = .record r ∧ b = .record s ∧
        fitsAttrs r.attrs s.attrs = true := by
  have hKnown := isUnknown_of_definite hB
  cases a with
  | set x =>
      rcases fits_set_iff.mp hFits with hUnknown | ⟨y, hSet, hInner⟩
      · rw [hKnown] at hUnknown
        cases hUnknown
      · exact Or.inr (Or.inl ⟨x, y, rfl, hSet, hInner⟩)
  | record r =>
      rcases fits_record_iff.mp hFits with
        hUnknown | ⟨s, hRecord, hInner⟩
      · rw [hKnown] at hUnknown
        cases hUnknown
      · exact Or.inr (Or.inr ⟨r, s, rfl, hRecord, hInner⟩)
  | _ => cases b <;> simp_all [fits, definite]

/-
  What fits a definite type fits whatever definite type that
  one fits. The attributes of the first record are required,
  so they are in the second one and from there in the third.
-/
theorem fits_trans
    {a b c : Ty}
    (hA : a.definite = true)
    (hB : b.definite = true)
    (hFits : fits a b = true)
    (hNext : fits b c = true) :
    fits a c = true := by
  induction a using parts_induction generalizing b c with
  | step a ih =>
      rcases cases_of_fits hA hB hFits with
        rfl | ⟨x, y, rfl, rfl, hInner⟩ | ⟨r, s, rfl, rfl, hInner⟩
      · exact hNext
      · rw [definite] at hA hB
        rw [fits_set_iff] at hNext ⊢
        rcases hNext with hUnknown | ⟨z, hSet, hBelow⟩
        · exact Or.inl hUnknown
        · exact
            Or.inr
              ⟨z, hSet,
                ih x List.mem_cons_self hA hB hInner hBelow⟩
      · rw [definite, definiteAttrs_iff] at hA hB
        rw [fits_record_iff] at hNext ⊢
        rcases hNext with hUnknown | ⟨t, hRecord, hBelow⟩
        · exact Or.inl hUnknown
        · refine Or.inr ⟨t, hRecord, ?_⟩
          rw [fitsAttrs_iff] at hInner hBelow ⊢
          intro name first hFirst
          rcases hA name first hFirst with ⟨hNeeded, hType⟩
          -- What is required can be missing in neither record.
          rcases hInner name first hFirst with
            ⟨second, hFound, hFitsSecond⟩ | ⟨_, hOptional⟩
          · have hSecond := Assoc.mem_of_find? hFound
            rcases hB name second hSecond with
              ⟨hNeededToo, hTypeToo⟩
            rcases hBelow name second hSecond with
              ⟨third, hFoundToo, hFitsThird⟩ | ⟨_, hOptional⟩
            · exact
                Or.inl
                  ⟨third, hFoundToo,
                    ih first.type (mem_parts_of_mem hFirst) hType
                      hTypeToo hFitsSecond hFitsThird⟩
            · rw [hNeededToo] at hOptional
              cases hOptional
          · rw [hNeeded] at hOptional
            cases hOptional

------------------------------------------------------------
-- Unification
------------------------------------------------------------

/- Where nothing is known of one type, the other is taken. -/
theorem unify_unknown
    (a : Ty) :
    unify .unknown a = a ∧ unify a .unknown = a := by
  cases a <;> exact ⟨rfl, rfl⟩

/- Types that do not fit are given up. -/
theorem unify_of_not_fits
    {a b : Ty}
    (hA : a ≠ .unknown)
    (hB : b ≠ .unknown)
    (hApart : fits a b = false) :
    unify a b = .unknown := by
  unfold unify
  split
  · exact absurd rfl hA
  · exact absurd rfl hB
  · rw [hApart]
    rfl

/- What is known of two types fits the first one. -/
theorem fits_unify_left
    {a : Ty}
    (hOrdered : a.Ordered)
    (b : Ty) :
    fits (unify a b) a = true := by
  unfold unify
  split
  · exact fits_unknown _
  · exact fits_refl _ hOrdered
  · split
    · exact fits_refl _ hOrdered
    · simp [fits]

end Ty

/-
  Every type fits itself. What is known of two types fits
  both; it is one of them or unknown, it is the other one
  where one is unknown, and it is unknown where the second
  does not fit the first. From definite types on fitting is
  transitive, whatever the last type is.
-/
theorem unified_type_fits_both :
    (∀ a : Ty, a.Ordered → Ty.fits a a = true) ∧
    (∀ a b : Ty, a.Ordered → b.Ordered →
      Ty.fits (Ty.unify a b) a = true ∧
        Ty.fits (Ty.unify a b) b = true) ∧
    (∀ a b : Ty,
      Ty.unify a b = a ∨ Ty.unify a b = b ∨
        Ty.unify a b = .unknown) ∧
    (∀ a : Ty,
      Ty.unify .unknown a = a ∧ Ty.unify a .unknown = a) ∧
    (∀ a b : Ty,
      a ≠ .unknown → b ≠ .unknown → Ty.fits a b = false →
        Ty.unify a b = .unknown) ∧
    ∀ a b c : Ty,
      a.definite = true → b.definite = true →
        Ty.fits a b = true → Ty.fits b c = true →
          Ty.fits a c = true := by
  refine
    ⟨Ty.fits_refl, ?_, Ty.unify_cases, Ty.unify_unknown, ?_, ?_⟩
  · intro a b hA hB
    exact ⟨Ty.fits_unify_left hA b, Ty.fits_unify_right a hB⟩
  · intro a b hA hB
    exact Ty.unify_of_not_fits hA hB
  · intro a b c hA hB
    exact Ty.fits_trans hA hB

/- A visit that may have a guide, with stops of some kind. -/
def guidedVisit : Ty :=
  .record
    ⟨[("guide", ⟨.anyEntity, false⟩),
      ("stops", ⟨.set .unknown, true⟩)],
      .openAttributes⟩

/- A visit of which only the stops are known. -/
def loneVisit : Ty :=
  .record ⟨[("stops", ⟨.set .string, true⟩)], .closedAttributes⟩

/- A visit with stops and with a length. -/
def timedVisit : Ty :=
  .record
    ⟨[("hours", ⟨.long, true⟩), ("stops", ⟨.set .string, true⟩)],
      .openAttributes⟩

/- A visit with a guide, of which the length is open. -/
def plannedVisit : Ty :=
  .record
    ⟨[("guide", ⟨.entity ⟨"User"⟩, true⟩),
      ("hours", ⟨.unknown, false⟩),
      ("stops", ⟨.set .string, true⟩)],
      .closedAttributes⟩

/-
  A lone visit is a guided one that lacks its guide, so the
  guided visit is what is known of both. A timed visit can
  be used for a lone one, and a planned visit for a timed
  one and with it for the lone one.
-/
theorem visits_unified :
    guidedVisit.Ordered ∧ loneVisit.Ordered ∧
      Ty.fits (Ty.unify guidedVisit loneVisit) guidedVisit = true ∧
      Ty.fits (Ty.unify guidedVisit loneVisit) loneVisit = true ∧
      Ty.unify loneVisit (.set .long) = .unknown ∧
      Ty.fits loneVisit timedVisit = true ∧
      Ty.fits timedVisit plannedVisit = true ∧
      Ty.fits loneVisit plannedVisit = true := by
  have hNames :
      Assoc.Ascending
        [("guide", Attribute.mk Ty.anyEntity false),
          ("stops", Attribute.mk (Ty.set .unknown) true)] := by
    unfold Assoc.Ascending
    decide
  have hGuided : guidedVisit.Ordered := by
    rw [guidedVisit, Ty.Ordered]
    exact ⟨hNames, by simp [Ty.Ordered, Ty.OrderedAttrs]⟩
  have hLone : loneVisit.Ordered := by
    simp [loneVisit, Ty.Ordered, Ty.OrderedAttrs, Assoc.Ascending,
      Assoc.keys]
  have hTimed : Ty.fits loneVisit timedVisit = true := by
    decide
  have hPlanned : Ty.fits timedVisit plannedVisit = true := by
    decide
  rcases unified_type_fits_both with
    ⟨_, hBoth, _, _, hApart, hTrans⟩
  rcases hBoth guidedVisit loneVisit hGuided hLone with
    ⟨hFirst, hSecond⟩
  refine ⟨hGuided, hLone, hFirst, hSecond, ?_, hTimed, hPlanned, ?_⟩
  · exact
      hApart loneVisit (.set .long) (by decide) (by decide) (by decide)
  · exact
      hTrans loneVisit timedVisit plannedVisit (by decide) (by decide)
        hTimed hPlanned

end PolicyCheck
