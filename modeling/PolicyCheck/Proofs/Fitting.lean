import Mathlib.Data.List.Forall2
import PolicyCheck.Json.Decode
import PolicyCheck.Proofs.Resolving

/-
  The documents that a structure can be read from. Where
  the fields are read independently of each other, those
  are the objects whose members fit its layout, and arrays
  with items that can be read in their places.

  Main declarations:
    * `Json.Layout.Uniform`
    * `Json.Layout.Fits`
    * `Json.Layout.exists_decode_obj_iff`
    * `Json.Layout.exists_assembleItems_of_forall₂`
    * `forall₂_of_mapM`
-/

namespace PolicyCheck

namespace Json

------------------------------------------------------------
-- Members That Fit
------------------------------------------------------------

namespace Layout

variable {α : Type} {layout : Layout}

/-
  Whether a field can be read depends on its name and its
  document only.
-/
structure Uniform
    (set : String → Json → α → Decoded α)
    (Readable : String → Json → Prop) : Prop where
  readable_of_ok :
    ∀ name j a b, set name j a = .ok b → Readable name j
  ok_of_readable :
    ∀ name j, Readable name j → ∀ a, ∃ b, set name j a = .ok b

/-
  Members from which a structure can be read: those of its
  fields are readable, there are no others if it is closed,
  and none that it needs is missing.
-/
structure Fits
    (layout : Layout)
    (Readable : String → Json → Prop)
    (given : List String)
    (members : List (String × Json)) : Prop where
  readable :
    ∀ member ∈ members, member.1 ∈ layout.fields →
      Readable member.1 member.2
  known :
    layout.closed = true →
      ∀ member ∈ members, member.1 ∈ layout.fields
  required :
    ∀ name ∈ layout.required, name ∈ given ++ Assoc.keys members

variable
  {set : String → Json → α → Decoded α}
  {Readable : String → Json → Prop}

/- The member of a field must be readable, and gives the field. -/
theorem fits_cons_of_field
    {given : List String}
    {key : String}
    {value : Json}
    {rest : List (String × Json)}
    (hField : key ∈ layout.fields) :
    layout.Fits Readable given ((key, value) :: rest) ↔
      Readable key value ∧
        layout.Fits Readable (key :: given) rest := by
  constructor
  · rintro ⟨hReadable, hKnown, hGiven⟩
    refine ⟨hReadable _ List.mem_cons_self hField, ?_, ?_, ?_⟩
    · intro member hMember
      exact hReadable member (List.mem_cons_of_mem _ hMember)
    · intro hClosed member hMember
      exact hKnown hClosed member (List.mem_cons_of_mem _ hMember)
    · intro name hName
      exact List.perm_middle.mem_iff.mp (hGiven name hName)
  · rintro ⟨hFirst, hReadable, hKnown, hGiven⟩
    refine ⟨?_, ?_, ?_⟩
    · exact List.forall_mem_cons.mpr ⟨fun _ => hFirst, hReadable⟩
    · intro hClosed
      exact List.forall_mem_cons.mpr ⟨hField, hKnown hClosed⟩
    · intro name hName
      exact List.perm_middle.mem_iff.mpr (hGiven name hName)

/- Another member is ignored, unless that is not allowed. -/
theorem fits_cons_of_other
    (hRequired : ∀ name ∈ layout.required, name ∈ layout.fields)
    {given : List String}
    {key : String}
    {value : Json}
    {rest : List (String × Json)}
    (hOther : key ∉ layout.fields) :
    layout.Fits Readable given ((key, value) :: rest) ↔
      layout.closed = false ∧
        layout.Fits Readable given rest := by
  constructor
  · rintro ⟨hReadable, hKnown, hGiven⟩
    refine ⟨?_, ?_, ?_, ?_⟩
    · rw [Bool.eq_false_iff]
      intro hClosed
      exact hOther (hKnown hClosed _ List.mem_cons_self)
    · intro member hMember
      exact hReadable member (List.mem_cons_of_mem _ hMember)
    · intro hClosed member hMember
      exact hKnown hClosed member (List.mem_cons_of_mem _ hMember)
    · intro name hName
      have hNe : name ≠ key := by
        rintro rfl
        exact hOther (hRequired name hName)
      simpa [Assoc.keys, hNe] using hGiven name hName
  · rintro ⟨hOpen, hReadable, hKnown, hGiven⟩
    refine ⟨?_, ?_, ?_⟩
    · exact
        List.forall_mem_cons.mpr
          ⟨fun hField => absurd hField hOther, hReadable⟩
    · intro hClosed
      rw [hOpen] at hClosed
      cases hClosed
    · intro name hName
      rcases List.mem_append.mp (hGiven name hName) with hOld | hNew
      · exact List.mem_append_left _ hOld
      · exact List.mem_append_right _ (List.mem_cons_of_mem _ hNew)

------------------------------------------------------------
-- Reading What Fits
------------------------------------------------------------

/- A structure is read exactly from the members that fit it. -/
theorem exists_assembleMembers_iff
    (hUniform : Uniform set Readable)
    (hRequired : ∀ name ∈ layout.required, name ∈ layout.fields)
    {members : List (String × Json)}
    {given : List String}
    (hNew : (given ++ Assoc.keys members).Nodup)
    (a : α) :
    (∃ b,
      layout.assembleMembers given a
          (members.map fun member =>
            (member.1, set member.1 member.2)) =
        .ok b) ↔
      layout.Fits Readable given members := by
  induction members generalizing given a with
  | nil =>
      have hNone :
          layout.missing? given = none ↔
            layout.Fits Readable given [] := by
        rw [missing?, List.find?_eq_none]
        constructor
        · intro hGiven
          refine ⟨by simp, by simp, ?_⟩
          simpa [Assoc.keys] using hGiven
        · intro hFits
          simpa [Assoc.keys] using hFits.required
      rw [← hNone, List.map_nil, assembleMembers]
      cases layout.missing? given <;> simp
  | cons member rest ih =>
      rcases member with ⟨key, value⟩
      have hPerm :
          (given ++ Assoc.keys ((key, value) :: rest)).Perm
            (key :: (given ++ Assoc.keys rest)) :=
        List.perm_middle
      have hParts := List.nodup_cons.mp (hPerm.nodup_iff.mp hNew)
      rw [List.map_cons, assembleMembers]
      by_cases hField : key ∈ layout.fields
      · have hGiven : ¬ given.contains key = true := by
          rw [List.contains_iff_mem]
          intro hMem
          exact hParts.1 (List.mem_append_left _ hMem)
        have hNext : (key :: given ++ Assoc.keys rest).Nodup :=
          hPerm.nodup_iff.mp hNew
        rw [if_pos (List.contains_iff_mem.mpr hField), if_neg hGiven,
          fits_cons_of_field hField]
        constructor
        · rintro ⟨b, hOk⟩
          rcases exists_ok_of_bind hOk with ⟨next, hSet, hDone⟩
          exact
            ⟨hUniform.readable_of_ok key value a next hSet,
              (ih hNext next).mp ⟨b, hDone⟩⟩
        · rintro ⟨hReadable, hFits⟩
          rcases hUniform.ok_of_readable key value hReadable a with
            ⟨next, hSet⟩
          rcases (ih hNext next).mpr hFits with ⟨b, hDone⟩
          refine ⟨b, ?_⟩
          rw [hSet]
          exact hDone
      · rw [if_neg (by simpa using hField),
          fits_cons_of_other hRequired hField, ← ih hParts.2 a]
        cases layout.closed <;> simp

/- So an object is read exactly if its members fit. -/
theorem exists_decode_obj_iff
    (hUniform : Uniform set Readable)
    (hRequired : ∀ name ∈ layout.required, name ∈ layout.fields)
    {members : List (String × Json)}
    (hKeys : (Assoc.keys members).Nodup)
    {default : α} :
    (∃ a, layout.decode set default (.obj members) = .ok a) ↔
      layout.Fits Readable [] members :=
  exists_assembleMembers_iff hUniform hRequired hKeys default

/- Items are read where those are that they are read as. -/
theorem exists_assembleItems_of_forall₂
    (hUniform : Uniform set Readable)
    {items written : List Json}
    (hItems :
      List.Forall₂
        (fun j w => ∀ name, Readable name w → Readable name j)
        items written)
    {left : List String}
    {a b : α}
    (hOk :
      layout.assembleItems a left
        (written.map fun w name => set name w) = .ok b)
    (c : α) :
    ∃ d,
      layout.assembleItems c left
        (items.map fun j name => set name j) = .ok d := by
  induction hItems generalizing left a c with
  | nil =>
      rw [List.map_nil, assembleItems] at hOk ⊢
      split at hOk
      · cases hOk
      · exact ⟨c, rfl⟩
  | @cons j w items written hItem _ ih =>
      cases left with
      | nil => simp [assembleItems] at hOk
      | cons name left =>
          rw [List.map_cons, assembleItems] at hOk ⊢
          rcases exists_ok_of_bind hOk with ⟨next, hNext, hDone⟩
          have hReadable : Readable name j :=
            hItem name (hUniform.readable_of_ok name w a next hNext)
          rcases hUniform.ok_of_readable name j hReadable c with
            ⟨other, hOther⟩
          rcases ih hDone other with ⟨d, hRest⟩
          refine ⟨d, ?_⟩
          rw [hOther]
          exact hRest

end Layout

end Json

------------------------------------------------------------
-- Lists
------------------------------------------------------------

variable {ε ι α : Type} {read : ι → Except ε α}

/- The elements of a list are read from its items. -/
theorem forall₂_of_mapM
    {items : List ι}
    {as : List α}
    (hOk : items.mapM read = .ok as) :
    List.Forall₂ (fun item a => read item = .ok a) items as := by
  induction items generalizing as with
  | nil =>
      rw [List.mapM_nil] at hOk
      rw [← Except.ok.inj hOk]
      exact .nil
  | cons item rest ih =>
      rw [List.mapM_cons] at hOk
      rcases exists_ok_of_bind hOk with ⟨a, hFirst, hMore⟩
      rcases exists_ok_of_bind hMore with ⟨others, hRest, hDone⟩
      rw [← Except.ok.inj hDone]
      exact .cons hFirst (ih hRest)

/- Every element of a list was read from an item. -/
theorem exists_of_mem_mapM
    {items : List ι}
    {as : List α}
    (hOk : items.mapM read = .ok as)
    {a : α}
    (hMem : a ∈ as) :
    ∃ item ∈ items, read item = .ok a := by
  have hItems := forall₂_of_mapM hOk
  clear hOk
  induction hItems with
  | nil => simp at hMem
  | @cons item b items as hFirst _ ih =>
      rcases List.mem_cons.mp hMem with rfl | hRest
      · exact ⟨item, List.mem_cons_self, hFirst⟩
      · rcases ih hRest with ⟨source, hSource, hRead⟩
        exact ⟨source, List.mem_cons_of_mem _ hSource, hRead⟩

end PolicyCheck
