import PolicyCheck.Proofs.CommonValues
import PolicyCheck.Proofs.InferredTypes

/-
  The type of the elements of a set literal. It is found by
  unification from left to right, which asks whether a type
  fits what is known so far, while the report of elements
  that do not go together asks for a fit in one direction or
  the other. So without a report what is known can be given
  up, and the search for a type starts anew with the next
  element. The type fits all elements exactly if it fits
  those that were forgotten in this way.

  Main declarations:
    * `Operand.givesUp`
    * `Operand.forgotten`
    * `Operand.fits_or_mem_forgotten`
    * `Operand.forgotten_eq_nil`
    * `set_type_fits_unless_forgotten`
    * `badge_forgotten_for_number`
-/

namespace PolicyCheck

------------------------------------------------------------
-- Unification
------------------------------------------------------------

namespace Ty

/- Beside what is known another type adds nothing. -/
theorem unify_of_known
    {a : Ty}
    (hKnown : a ≠ .unknown)
    (b : Ty) :
    unify a b = a ∨ unify a b = .unknown := by
  unfold unify
  split
  · exact absurd rfl hKnown
  · exact Or.inl rfl
  · split
    · exact Or.inl rfl
    · exact Or.inr rfl

/- A type that fits what is known leaves it as it is. -/
theorem unify_of_fits
    {a b : Ty}
    (hKnown : a ≠ .unknown)
    (hFits : fits a b = true) :
    unify a b = a := by
  unfold unify
  split
  · exact absurd rfl hKnown
  · rfl
  · rw [if_pos hFits]

/- What is known of two types fits the second one. -/
theorem fits_unify_right
    (a : Ty)
    {b : Ty}
    (hOrdered : b.Ordered) :
    fits (unify a b) b = true := by
  unfold unify
  split
  · exact fits_refl _ hOrdered
  · exact fits_unknown _
  · split
    · assumption
    · simp [fits]

/- The two directions of a fit differ only where records occur. -/
theorem fits_comm_of_recordFree
    (a b : Ty)
    (hA : a.recordFree = true)
    (hB : b.recordFree = true) :
    fits a b = fits b a := by
  cases a with
  | record _ => simp [recordFree] at hA
  | set x =>
      cases b with
      | record _ => simp [recordFree] at hB
      | set y =>
          rw [recordFree] at hA hB
          rw [fits, fits]
          exact fits_comm_of_recordFree x y hA hB
      | _ => simp [fits]
  | _ =>
      cases b with
      | record _ => simp [recordFree] at hB
      | _ => simp [fits, eq_comm]

/- Where nothing is known, types fit in both directions. -/
theorem fits_unknown_comm
    (ty : Ty) :
    fits .unknown ty = fits ty .unknown := by
  simp [fits]

end Ty

------------------------------------------------------------
-- Forgotten Elements
------------------------------------------------------------

namespace Operand

/-
  Something is known of the elements so far, and nothing any
  more with the type of the next one.
-/
def givesUp
    (sofar ty : Ty) : Bool :=
  sofar ≠ .unknown && Ty.unify sofar ty = .unknown

/-
  The types of the elements up to the last one at which what
  is known is given up.
-/
def forgotten
    (sofar : Ty) : List Ty → List Ty
  | [] => []
  | ty :: rest =>
      let later := forgotten (Ty.unify sofar ty) rest
      if givesUp sofar ty || !later.isEmpty then ty :: later else []

section Forgotten

variable {sofar ty : Ty} {types : List Ty}

/- Nothing is given up where a type fits what is known. -/
theorem givesUp_eq_false_of_fits
    (hFits : Ty.fits sofar ty = true) :
    givesUp sofar ty = false := by
  by_cases hKnown : sofar = .unknown
  · simp [givesUp, hKnown]
  · simp [givesUp, Ty.unify_of_fits hKnown hFits, hKnown]

/- When nothing is forgotten. -/
theorem forgotten_cons_eq_nil_iff :
    forgotten sofar (ty :: types) = [] ↔
      givesUp sofar ty = false ∧
        forgotten (Ty.unify sofar ty) types = [] := by
  rw [forgotten]
  cases givesUp sofar ty with
  | true => simp
  | false => simp

/- What is forgotten are types of elements. -/
theorem mem_of_mem_forgotten
    {other : Ty}
    (hMem : other ∈ forgotten sofar types) :
    other ∈ types := by
  induction types generalizing sofar with
  | nil => cases hMem
  | cons ty rest ih =>
      rw [forgotten] at hMem
      split at hMem
      · rcases List.mem_cons.mp hMem with rfl | hLater
        · exact List.mem_cons_self
        · exact List.mem_cons_of_mem _ (ih hLater)
      · cases hMem

/- If nothing is forgotten, what is known stays known. -/
theorem joinElements_of_forgotten_eq_nil
    (hNone : forgotten sofar types = []) :
    sofar = .unknown ∨ (joinElements sofar types).1 = sofar := by
  induction types generalizing sofar with
  | nil => exact Or.inr rfl
  | cons ty rest ih =>
      rcases forgotten_cons_eq_nil_iff.mp hNone with ⟨hKeeps, hRest⟩
      by_cases hKnown : sofar = .unknown
      · exact Or.inl hKnown
      · have hStill : Ty.unify sofar ty ≠ .unknown := by
          intro hGone
          simp [givesUp, hKnown, hGone] at hKeeps
        have hSame : Ty.unify sofar ty = sofar :=
          (Ty.unify_of_known hKnown ty).resolve_right hStill
        rcases ih hRest with hGone | hResult
        · exact absurd hGone hStill
        · exact Or.inr (hResult.trans hSame)

/-
  Where nothing is known with a type, though nothing is given
  up, the type itself is unknown.
-/
theorem eq_unknown_of_kept
    (hKeeps : givesUp sofar ty = false)
    (hGone : Ty.unify sofar ty = .unknown) :
    ty = .unknown := by
  have hNothing : sofar = .unknown := by
    simpa [givesUp, hGone] using hKeeps
  rw [hNothing] at hGone
  exact hGone

/- If nothing is forgotten, the type fits every element. -/
theorem fits_of_forgotten_eq_nil
    (hNone : forgotten sofar types = [])
    (hOrdered : ∀ ty ∈ types, ty.Ordered) :
    ∀ ty ∈ types,
      Ty.fits (joinElements sofar types).1 ty = true := by
  induction types generalizing sofar with
  | nil => simp
  | cons ty rest ih =>
      rcases forgotten_cons_eq_nil_iff.mp hNone with ⟨hKeeps, hLater⟩
      intro other hMem
      rcases List.mem_cons.mp hMem with rfl | hThere
      · rcases joinElements_of_forgotten_eq_nil hLater with
          hGone | hResult
        · rw [eq_unknown_of_kept hKeeps hGone]
          exact Ty.fits_unknown _
        · rw [joinElements, hResult]
          exact Ty.fits_unify_right sofar (hOrdered other hMem)
      · apply ih hLater
        · intro later hLaterMem
          exact hOrdered later (List.mem_cons_of_mem _ hLaterMem)
        · exact hThere

/-
  The type of the elements fits every element that is not
  forgotten. The induction is on the elements, with what is
  known of them so far.
-/
theorem fits_or_mem_forgotten
    (sofar : Ty)
    (hOrdered : ∀ ty ∈ types, ty.Ordered) :
    ∀ ty ∈ types,
      Ty.fits (joinElements sofar types).1 ty = true ∨
        ty ∈ forgotten sofar types := by
  induction types generalizing sofar with
  | nil => simp
  | cons ty rest ih =>
      by_cases hNone : forgotten sofar (ty :: rest) = []
      · intro other hMem
        exact
          Or.inl (fits_of_forgotten_eq_nil hNone hOrdered other hMem)
      · have hSplit :
            forgotten sofar (ty :: rest) =
              ty :: forgotten (Ty.unify sofar ty) rest := by
          rw [forgotten] at hNone ⊢
          split
          · rfl
          · simp_all
        rw [hSplit]
        intro other hMem
        rcases List.mem_cons.mp hMem with rfl | hThere
        · exact Or.inr List.mem_cons_self
        · have hRest :=
            ih (Ty.unify sofar ty)
              (fun later hLater =>
                hOrdered later (List.mem_cons_of_mem _ hLater))
              other hThere
          exact hRest.imp_right (List.mem_cons_of_mem ty)

/-
  Nothing that is known can be given up without a report, if
  fits in one direction are fits in both. The induction keeps
  this of what is known so far, which is one of the types.
-/
theorem forgotten_eq_nil
    (hAccepted : (joinElements sofar types).2 = [])
    (hSofar :
      ∀ ty ∈ types, Ty.fits sofar ty = Ty.fits ty sofar)
    (hBoth :
      ∀ a ∈ types, ∀ b ∈ types, Ty.fits a b = Ty.fits b a) :
    forgotten sofar types = [] := by
  induction types generalizing sofar with
  | nil => rfl
  | cons ty rest ih =>
      simp only [joinElements, List.append_eq_nil_iff] at hAccepted
      have hCompatible : Ty.compatible sofar ty = true := by
        simpa using hAccepted.1
      have hFits : Ty.fits sofar ty = true := by
        rw [Ty.compatible, ← hSofar ty List.mem_cons_self,
          Bool.or_self] at hCompatible
        exact hCompatible
      rw [forgotten_cons_eq_nil_iff]
      refine ⟨givesUp_eq_false_of_fits hFits, ?_⟩
      apply ih hAccepted.2
      · intro other hMem
        have hOther := List.mem_cons_of_mem ty hMem
        rcases Ty.unify_cases sofar ty with hSame | hSame | hSame
        · rw [hSame]
          exact hSofar other hOther
        · rw [hSame]
          exact hBoth ty List.mem_cons_self other hOther
        · rw [hSame]
          exact Ty.fits_unknown_comm other
      · intro a hA b hB
        exact hBoth a (List.mem_cons_of_mem _ hA) b
          (List.mem_cons_of_mem _ hB)

/- A set literal starts with nothing known. -/
theorem setLiteral_eq
    (types : List Ty) :
    setLiteral types =
      (.set (joinElements .unknown types).1,
        (joinElements .unknown types).2) := by
  cases types with
  | nil => rfl
  | cons first rest =>
      have hFirst : Ty.compatible .unknown first = true := by
        simp [Ty.compatible, Ty.fits]
      simp [setLiteral, joinElements, hFirst, Ty.unify]

end Forgotten

end Operand

------------------------------------------------------------
-- Set Literals
------------------------------------------------------------

/-
  Where no elements of a set literal are reported as going
  apart, its type fits all of them exactly if it fits those
  that were forgotten on the way. Nothing is forgotten if the
  types fit each other in both directions or not at all, as
  types without records do.
-/
theorem set_type_fits_unless_forgotten
    {checker : Checker}
    (hChecker : checker.Ordered)
    {position : Position}
    (hGuard : checker.guard position = false)
    (level : Nat)
    {elements : List Expr}
    (hElements : (Expr.set elements).Ordered)
    (hAccepted :
      (checker.check position level (.set elements)).2 =
        (checker.checkList position level 0 elements).2) :
    ∃ element types,
      (checker.check position level (.set elements)).1 =
          .set element ∧
        (checker.checkList position level 0 elements).1 = types ∧
        ((∀ ty ∈ types, Ty.fits element ty = true) ↔
          ∀ ty ∈ Operand.forgotten .unknown types,
            Ty.fits element ty = true) ∧
        ((∀ a ∈ types, ∀ b ∈ types,
            Ty.fits a b = Ty.fits b a) →
          ∀ ty ∈ types, Ty.fits element ty = true) ∧
        ((∀ ty ∈ types, ty.recordFree = true) →
          ∀ ty ∈ types, Ty.fits element ty = true) := by
  have hOrdered :=
    hChecker.checkList position level 0 elements fun _ hMem =>
      hElements.part (.element hMem)
  rw [Checker.check_set hGuard, Operand.setLiteral_eq] at hAccepted ⊢
  have hNone :
      (Operand.joinElements .unknown
        (checker.checkList position level 0 elements).1).2 = [] := by
    simpa using hAccepted
  generalize (checker.checkList position level 0 elements).1 = types
    at hOrdered hNone ⊢
  have hEither :
      (∀ a ∈ types, ∀ b ∈ types, Ty.fits a b = Ty.fits b a) →
        ∀ ty ∈ types,
          Ty.fits (Operand.joinElements .unknown types).1 ty =
            true := by
    intro hBoth
    exact Operand.fits_of_forgotten_eq_nil
      (Operand.forgotten_eq_nil hNone
        (fun ty _ => Ty.fits_unknown_comm ty) hBoth) hOrdered
  refine ⟨_, _, rfl, rfl, ⟨?_, ?_⟩, hEither, ?_⟩
  · intro hAll ty hMem
    exact hAll ty (Operand.mem_of_mem_forgotten hMem)
  · intro hForgotten ty hMem
    rcases Operand.fits_or_mem_forgotten .unknown hOrdered ty hMem
      with hFits | hLost
    · exact hFits
    · exact hForgotten ty hLost
  · intro hFree
    apply hEither
    intro a hA b hB
    exact Ty.fits_comm_of_recordFree a b (hFree a hA) (hFree b hB)

/- The type of records with a badge. -/
def badgeTy : Ty :=
  .closedRecord [("badge", .long)]

/- The type of records with nothing. -/
def blankTy : Ty :=
  .closedRecord []

/- A record with a badge. -/
def badge : Expr :=
  .record [("badge", .lit (.long 1))]

/- A record with a badge and two without. -/
def badgeAndBlanks : List Expr :=
  [badge, .record [], .record []]

/- A record with a badge, one without, and a number. -/
def badgeAndNumber : List Expr :=
  [badge, .record [], .lit (.long 5)]

/- Those may enter whose badge is in a set. -/
def badgePolicy
    (elements : List Expr) : Policy :=
  ⟨⟨"badge"⟩, .permit, .any, .any, .any,
    [⟨.when, .binary .contains (.set elements) badge⟩]⟩

/- The checker of that policy. -/
def badgeChecker
    (elements : List Expr) : Checker :=
  (Validator.mk visitorSchema default).checker Guard.never
    (badgePolicy elements)

/- Records with at most one field are ordered. -/
theorem badgeAndBlanks_ordered :
    (Expr.set badgeAndBlanks).Ordered := by
  have hBadge : badge.Ordered := by
    apply Expr.ordered_of_parts
    · rintro _ ⟨⟩
      simp [Assoc.Ascending, Assoc.keys]
    · intro part hPart
      cases hPart with
      | field hMem =>
          rcases Prod.mk.inj (List.mem_singleton.mp hMem) with
            ⟨_, rfl⟩
          apply Expr.ordered_of_parts
          · rintro _ ⟨⟩
          · rintro _ ⟨⟩
  have hBlank : (Expr.record []).Ordered := by
    apply Expr.ordered_of_parts
    · rintro _ ⟨⟩
      exact Assoc.ascending_nil
    · intro part hPart
      cases hPart with
      | field hMem => cases hMem
  apply Expr.ordered_of_parts
  · rintro _ ⟨⟩
  · intro part hPart
    cases hPart with
    | element hMem =>
        simp only [badgeAndBlanks, List.mem_cons, List.not_mem_nil,
          or_false, or_self] at hMem
        rcases hMem with rfl | rfl
        · exact hBadge
        · exact hBlank

/-
  A badge is forgotten for a record without one, which fits
  the badge only the other way round. The type is then found
  anew from the last record, and it fits all three.
-/
theorem blanks_fit_badge :
    ∃ fragment,
      Fragment.ofJson visitorDocument = .ok fragment ∧
      Schema.build false [fragment] = .ok visitorSchema ∧
      Operand.forgotten .unknown [badgeTy, blankTy, blankTy] =
        [badgeTy, blankTy] ∧
      ∃ element,
        ((badgeChecker badgeAndBlanks).check [0, 0] 0
            (.set badgeAndBlanks)).1 = .set element ∧
          ∀ ty ∈ [badgeTy, blankTy, blankTy],
            Ty.fits element ty = true := by
  have hFragment :
      ∃ fragment,
        Fragment.ofJson visitorDocument = .ok fragment ∧
          Schema.build false [fragment] = .ok visitorSchema :=
    ⟨_, rfl, rfl⟩
  rcases hFragment with ⟨fragment, hRead, hBuilt⟩
  have hOrdered : ∀ other ∈ [fragment], other.Ordered := by
    simpa using Fragment.ordered_of_ofJson hRead
  have hForgotten :
      Operand.forgotten .unknown [badgeTy, blankTy, blankTy] =
        [badgeTy, blankTy] := by
    decide
  have hTypes :
      ((badgeChecker badgeAndBlanks).checkList [0, 0] 0 0
        badgeAndBlanks).1 = [badgeTy, blankTy, blankTy] := by
    decide +kernel
  have hAccepted :
      ((badgeChecker badgeAndBlanks).check [0, 0] 0
          (.set badgeAndBlanks)).2 =
        ((badgeChecker badgeAndBlanks).checkList [0, 0] 0 0
          badgeAndBlanks).2 := by
    decide +kernel
  have hElement :
      ((badgeChecker badgeAndBlanks).check [0, 0] 0
        (.set badgeAndBlanks)).1 = .set blankTy := by
    decide +kernel
  obtain ⟨element, types, hSet, hSame, hFits, _⟩ :=
    set_type_fits_unless_forgotten
      (Validator.checker_ordered hBuilt hOrdered default Guard.never
        (badgePolicy badgeAndBlanks))
      rfl 0 badgeAndBlanks_ordered hAccepted
  obtain rfl : [badgeTy, blankTy, blankTy] = types :=
    hTypes.symm.trans hSame
  obtain rfl : blankTy = element := by
    injection hElement.symm.trans hSet
  refine ⟨fragment, hRead, hBuilt, hForgotten, blankTy, hSet, ?_⟩
  rw [hFits, hForgotten]
  decide

/-
  With a number in the place of the last record the badge is
  forgotten for good. Nothing is reported of the literal, the
  elements are taken for numbers, and that the badge is among
  them is refused.
-/
theorem badge_forgotten_for_number :
    ∃ fragment,
      Fragment.ofJson visitorDocument = .ok fragment ∧
      Schema.build false [fragment] = .ok visitorSchema ∧
      (badgeChecker badgeAndNumber).check [0, 0] 0
          (.set badgeAndNumber) =
        (.set .long, []) ∧
      ((badgeChecker badgeAndNumber).checkList [0, 0] 0 0
          badgeAndNumber).1 =
        [badgeTy, blankTy, .long] ∧
      Ty.fits .long badgeTy = false ∧
      (Validator.mk visitorSchema default).validatePolicies
          Guard.never [badgePolicy badgeAndNumber] =
        [⟨⟨"badge"⟩,
          Operand.incompatible .long badgeTy .mismatch .contains⟩] := by
  refine ⟨_, rfl, rfl, ?_, ?_, by decide, ?_⟩
  · decide +kernel
  · decide +kernel
  · decide +kernel

end PolicyCheck
