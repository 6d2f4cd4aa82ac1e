import PolicyCheck.Name

/-
  The orders of entity types and of identifiers are strict
  and total, as the order of texts is, so that tables under
  such names are determined by their bindings.

  Main declarations:
    * `EntityUid.lt_iff`
-/

namespace PolicyCheck

------------------------------------------------------------
-- Entity Types
------------------------------------------------------------

namespace EntityType

instance : Std.Irrefl (α := EntityType) (· < ·) where
  irrefl a := String.lt_irrefl a.name

instance : Std.Asymm (α := EntityType) (· < ·) where
  asymm a b := String.lt_asymm (a := a.name) (b := b.name)

instance :
    Trans (α := EntityType) (· < ·) (· < ·) (· < ·) where
  trans {a b c} hFirst hSecond :=
    String.lt_trans (a := a.name) (b := b.name) (c := c.name)
      hFirst hSecond

instance : Std.Trichotomous (α := EntityType) (· < ·) where
  trichotomous a b hNotLt hNotGt := by
    have hName : a.name = b.name :=
      Std.Trichotomous.trichotomous
        (r := (· < · : String → String → Prop)) a.name b.name
        hNotLt hNotGt
    cases a
    cases b
    exact congrArg EntityType.mk hName

end EntityType

------------------------------------------------------------
-- Entity Identifiers
------------------------------------------------------------

namespace EntityUid

/- Identifiers are ordered by their types, then by their ids. -/
theorem lt_iff
    {a b : EntityUid} :
    a < b ↔ a.type < b.type ∨ a.type = b.type ∧ a.id < b.id :=
  Iff.rfl

instance : Std.Asymm (α := EntityUid) (· < ·) where
  asymm a b hLt hGt := by
    rw [lt_iff] at hLt hGt
    rcases hLt with hType | ⟨hSame, hId⟩
    · rcases hGt with hBack | ⟨hSame, _⟩
      · exact Std.Asymm.asymm a.type b.type hType hBack
      · rw [hSame] at hType
        exact Std.Irrefl.irrefl a.type hType
    · rcases hGt with hBack | ⟨_, hBack⟩
      · rw [hSame] at hBack
        exact Std.Irrefl.irrefl b.type hBack
      · exact Std.Asymm.asymm a.id b.id hId hBack

instance : Std.Irrefl (α := EntityUid) (· < ·) where
  irrefl a hLt := Std.Asymm.asymm a a hLt hLt

/- An identifier does not come before itself. -/
theorem ne_of_lt
    {a b : EntityUid}
    (hLt : a < b) :
    a ≠ b := by
  rintro rfl
  exact Std.Irrefl.irrefl a hLt

instance :
    Trans (α := EntityUid) (· < ·) (· < ·) (· < ·) where
  trans {a b c} hFirst hSecond := by
    rw [lt_iff] at hFirst hSecond ⊢
    rcases hFirst with hType | ⟨hSame, hId⟩
    · rcases hSecond with hNext | ⟨hNext, _⟩
      · exact Or.inl (Trans.trans hType hNext)
      · exact Or.inl (hNext ▸ hType)
    · rcases hSecond with hNext | ⟨hNext, hNextId⟩
      · exact Or.inl (hSame ▸ hNext)
      · exact
          Or.inr ⟨hSame.trans hNext, Trans.trans hId hNextId⟩

instance : Std.Trichotomous (α := EntityUid) (· < ·) where
  trichotomous a b hNotLt hNotGt := by
    rw [lt_iff, not_or] at hNotLt hNotGt
    have hType : a.type = b.type :=
      Std.Trichotomous.trichotomous a.type b.type
        hNotLt.1 hNotGt.1
    have hId : a.id = b.id := by
      apply
        Std.Trichotomous.trichotomous
          (r := (· < · : String → String → Prop)) a.id b.id
      · intro hLt
        exact hNotLt.2 ⟨hType, hLt⟩
      · intro hGt
        exact hNotGt.2 ⟨hType.symm, hGt⟩
    cases a
    cases b
    exact congr (congrArg EntityUid.mk hType) hId

end EntityUid

end PolicyCheck
