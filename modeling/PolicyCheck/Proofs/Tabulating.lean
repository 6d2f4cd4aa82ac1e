import PolicyCheck.Proofs.Assoc
import PolicyCheck.Proofs.Resolving
import PolicyCheck.Schema.Build

/-
  Tables of declarations. Making a table succeeds exactly
  when every declaration makes something and no two of them
  make something under the same key. The order of the
  declarations has no influence on the table.

  Main declarations:
    * `Tabulates`
    * `Tabulates.unique`
    * `Tabulates.of_perm`
    * `Tabulates.mem_iff`
    * `tabulate_ends`
    * `tabulate_preserves`
    * `CommonTypes.ofFragments_eq_ok_iff`
-/

namespace PolicyCheck

open Resolving

------------------------------------------------------------
-- Tables
------------------------------------------------------------

section Tabulates

variable {α β κ : Type} [LT κ]

/-
  A table holds what declarations make, each under its own
  key and in ascending order, besides what was there before.
-/
structure Tabulates
    (value? : α → Option β)
    (key : β → κ)
    (done : Assoc κ β)
    (declarations : List α)
    (table : Assoc κ β) : Prop where
  made : ∀ a ∈ declarations, (value? a).isSome
  ascending : table.Ascending
  perm :
    table.Perm
      ((declarations.filterMap value?).map (fun b => (key b, b)) ++
        done)

namespace Tabulates

variable {value? : α → Option β} {key : β → κ}
variable {done table : Assoc κ β}
variable {declarations : List α}

/- Without declarations there is only what was there before. -/
theorem nil
    (hDone : done.Ascending) :
    Tabulates value? key done [] done :=
  ⟨by simp, hDone, List.Perm.refl _⟩

/- There is only one table of given declarations. -/
theorem unique
    [Std.Asymm (α := κ) (· < ·)]
    {other : Assoc κ β}
    (hTable : Tabulates value? key done declarations table)
    (hOther : Tabulates value? key done declarations other) :
    table = other :=
  Assoc.eq_of_perm hTable.ascending hOther.ascending
    (hTable.perm.trans hOther.perm.symm)

/- The order of the declarations does not matter. -/
theorem of_perm
    {others : List α}
    (hPerm : declarations.Perm others)
    (hTable : Tabulates value? key done declarations table) :
    Tabulates value? key done others table where
  made := fun a hA => hTable.made a (hPerm.mem_iff.mpr hA)
  ascending := hTable.ascending
  perm :=
    hTable.perm.trans
      (((hPerm.filterMap value?).map _).append_right done)

/- What is in a table was made by one of the declarations. -/
theorem mem_iff
    (hTable : Tabulates value? key [] declarations table)
    {k : κ}
    {b : β} :
    (k, b) ∈ table ↔
      k = key b ∧ ∃ a ∈ declarations, value? a = some b := by
  rw [hTable.perm.mem_iff, List.append_nil, List.mem_map]
  constructor
  · rintro ⟨made, hMade, hEntry⟩
    rcases Prod.mk.inj hEntry with ⟨rfl, rfl⟩
    exact ⟨rfl, List.mem_filterMap.mp hMade⟩
  · rintro ⟨rfl, hMade⟩
    exact ⟨b, List.mem_filterMap.mpr hMade, rfl⟩

/- No two declarations make something under the same key. -/
theorem keys_nodup
    [Std.Irrefl (α := κ) (· < ·)]
    (hTable : Tabulates value? key done declarations table) :
    ((declarations.filterMap value?).map key ++
      done.keys).Nodup := by
  have hKeys :=
    (hTable.perm.map Prod.fst).nodup_iff.mp hTable.ascending.nodup
  simpa [Assoc.keys, Function.comp_def] using hKeys

/- Nothing can be entered under a key that is taken. -/
theorem not_cons_of_taken
    [Std.Irrefl (α := κ) (· < ·)]
    {a : α}
    {b : β}
    (hMade : value? a = some b)
    (hTaken : key b ∈ done.keys) :
    ¬ Tabulates value? key done (a :: declarations) table := by
  intro hTable
  have hKeys := hTable.keys_nodup
  rw [List.filterMap_cons_some hMade, List.map_cons,
    List.cons_append] at hKeys
  exact
    (List.nodup_cons.mp hKeys).1 (List.mem_append_right _ hTaken)

/- What one declaration makes can be entered before the others. -/
theorem cons_iff
    [DecidableEq κ] [DecidableLT κ]
    {a : α}
    {b : β}
    (hMade : value? a = some b)
    (hNew : key b ∉ done.keys) :
    Tabulates value? key done (a :: declarations) table ↔
      Tabulates value? key (done.insert (key b) b) declarations
        table := by
  have hEntries :
      (((a :: declarations).filterMap value?).map
          (fun b => (key b, b)) ++ done).Perm
        ((declarations.filterMap value?).map
          (fun b => (key b, b)) ++ done.insert (key b) b) := by
    rw [List.filterMap_cons_some hMade, List.map_cons,
      List.cons_append]
    exact
      List.perm_middle.symm.trans
        ((Assoc.insert_perm hNew b).symm.append_left _)
  constructor
  · intro hTable
    exact
      ⟨fun other hOther =>
          hTable.made other (List.mem_cons_of_mem _ hOther),
        hTable.ascending, hTable.perm.trans hEntries⟩
  · intro hTable
    refine
      ⟨?_, hTable.ascending, hTable.perm.trans hEntries.symm⟩
    intro other hOther
    rcases List.mem_cons.mp hOther with rfl | hRest
    · simp [hMade]
    · exact hTable.made other hRest

end Tabulates

end Tabulates

------------------------------------------------------------
-- Making Tables
------------------------------------------------------------

section Making

variable {α β κ : Type} [DecidableEq κ] [LT κ] [DecidableLT κ]
variable {make : α → Resolving β}
variable {value? : α → Option β}
variable (key : β → κ)
variable (taken : κ → SchemaError)
variable {Inv : Memo → Prop}

/-
  Making a table gives the table of the declarations, and
  it fails only if they have none. The induction is on the
  declarations, each of which enters one key.
-/
theorem tabulate_ends
    [Std.Irrefl (α := κ) (· < ·)]
    [Trans (α := κ) (· < ·) (· < ·) (· < ·)]
    [Std.Trichotomous (α := κ) (· < ·)]
    (hMake :
      ∀ a memo, Inv memo →
        Ends (make a) memo
          (fun b after => Inv after ∧ value? a = some b)
          (fun _ => value? a = none))
    (declarations : List α)
    {done : Assoc κ β}
    (hDone : done.Ascending)
    {memo : Memo}
    (hMemo : Inv memo) :
    Ends (tabulate make key taken done declarations) memo
      (fun table after =>
        Inv after ∧ Tabulates value? key done declarations table)
      (fun _ =>
        ∀ table,
          ¬ Tabulates value? key done declarations table) := by
  induction declarations generalizing done memo with
  | nil => exact Ends.pure ⟨hMemo, Tabulates.nil hDone⟩
  | cons a rest ih =>
      rw [tabulate]
      have hFirst :
          Ends (make a) memo
            (fun b after => Inv after ∧ value? a = some b)
            (fun _ =>
              ∀ table,
                ¬ Tabulates value? key done (a :: rest) table) := by
        apply (hMake a memo hMemo).imp_error
        intro _ hNone table hTable
        have hMade := hTable.made a List.mem_cons_self
        rw [hNone] at hMade
        cases hMade
      apply Ends.bind hFirst
      rintro b after ⟨hAfter, hMade⟩
      by_cases hTaken : key b ∈ done.keys
      · have hContains : done.contains (key b) = true :=
          Assoc.isSome_find?_iff.mpr hTaken
        rw [if_pos hContains]
        exact
          Ends.throw fun table =>
            Tabulates.not_cons_of_taken hMade hTaken
      · have hContains : ¬ done.contains (key b) = true := fun h =>
          hTaken (Assoc.isSome_find?_iff.mp h)
        rw [if_neg hContains]
        have hInserted :=
          Assoc.ascending_insert hDone (key b) b
        simp only [Tabulates.cons_iff hMade hTaken]
        exact ih hInserted hAfter

/- What every declaration preserves, making a table preserves. -/
theorem tabulate_preserves
    (hMake :
      ∀ a memo, Inv memo →
        Ends (make a) memo (fun _ after => Inv after)
          (fun _ => True))
    (declarations : List α)
    {done : Assoc κ β}
    {memo : Memo}
    (hMemo : Inv memo) :
    Ends (tabulate make key taken done declarations) memo
      (fun _ after => Inv after) (fun _ => True) := by
  induction declarations generalizing done memo with
  | nil => exact Ends.pure hMemo
  | cons a rest ih =>
      rw [tabulate]
      apply Ends.bind (hMake a memo hMemo)
      intro b after hAfter
      split
      · exact Ends.throw trivial
      · exact ih hAfter

end Making

------------------------------------------------------------
-- Declared Common Types
------------------------------------------------------------

namespace CommonTypes

/- The common types that fragments declare, as they come. -/
def declarations
    (fragments : List Fragment) : CommonTypes :=
  (Fragment.declarations NamespaceSpec.commonTypes fragments).map
    Declaration.commonType

/- Each common type is entered under its own name. -/
def entries
    (declared : CommonTypes) :
    Assoc String (String × (String × TypeSpec)) :=
  declared.map fun binding => (binding.1, binding)

/- The entries are in the order of the common types. -/
theorem keys_entries
    (declared : CommonTypes) :
    (entries declared).keys = declared.keys := by
  simp [entries, Assoc.keys]

/- The values of the entries are the common types. -/
theorem values_entries
    (declared : CommonTypes) :
    (entries declared).values = declared := by
  simp [entries, Assoc.values, Function.comp_def]

/- A table of such entries is the table of its values. -/
theorem eq_entries_of_perm
    {declared : CommonTypes}
    {table : Assoc String (String × (String × TypeSpec))}
    (hPerm : table.Perm (entries declared)) :
    table = entries table.values := by
  have hEntry :
      ∀ entry ∈ table, (entry.2.1, entry.2) = entry := by
    intro entry hEntry
    rcases List.mem_map.mp (hPerm.mem_iff.mp hEntry) with
      ⟨binding, _, rfl⟩
    rfl
  rw [entries, Assoc.values, List.map_map]
  conv => lhs; rw [← List.map_id table]
  exact (List.map_congr_left hEntry).symm

/- The table of the declared common types, before it is read off. -/
theorem tabulates_iff
    {fragments : List Fragment}
    {table : Assoc String (String × (String × TypeSpec))} :
    Tabulates (fun declaration => some declaration.commonType)
        Prod.fst []
        (Fragment.declarations NamespaceSpec.commonTypes fragments)
        table ↔
      table.Ascending ∧
        table.Perm (entries (declarations fragments)) := by
  constructor
  · intro hTable
    refine ⟨hTable.ascending, ?_⟩
    simpa [entries, declarations, Function.comp_def] using
      hTable.perm
  · rintro ⟨hAscending, hPerm⟩
    refine ⟨by simp, hAscending, ?_⟩
    simpa [entries, declarations, Function.comp_def] using hPerm

/-
  The common types of fragments are the declared ones, in
  ascending order of their names.
-/
theorem ofFragments_eq_ok_iff
    {fragments : List Fragment}
    {declared : CommonTypes} :
    ofFragments fragments = .ok declared ↔
      declared.Ascending ∧
        declared.Perm (declarations fragments) := by
  have hEnds :
      Ends
        (tabulate
          (fun declaration => pure declaration.commonType)
          Prod.fst .duplicateCommonType []
          (Fragment.declarations NamespaceSpec.commonTypes
            fragments))
        []
        (fun table _ =>
          True ∧
            Tabulates
              (fun declaration => some declaration.commonType)
              Prod.fst []
              (Fragment.declarations NamespaceSpec.commonTypes
                fragments)
              table)
        (fun _ =>
          ∀ table,
            ¬ Tabulates
              (fun declaration => some declaration.commonType)
              Prod.fst []
              (Fragment.declarations NamespaceSpec.commonTypes
                fragments)
              table) :=
    tabulate_ends Prod.fst .duplicateCommonType
      (fun _ _ _ => Ends.pure ⟨trivial, rfl⟩) _
      Assoc.ascending_nil trivial
  unfold ofFragments
  constructor
  · intro hOk
    rcases exists_ok_of_bind hOk with ⟨table, hMade, hValues⟩
    rcases run'_eq_ok_iff.mp hMade with ⟨after, hRun⟩
    rcases tabulates_iff.mp (hEnds.ok table after hRun).2 with
      ⟨hAscending, hPerm⟩
    rw [← Except.ok.inj hValues]
    constructor
    · rw [eq_entries_of_perm hPerm] at hAscending
      rw [Assoc.Ascending, keys_entries] at hAscending
      exact hAscending
    · have hAll := hPerm.map Prod.snd
      rw [← Assoc.values, ← Assoc.values, values_entries] at hAll
      exact hAll
  · rintro ⟨hAscending, hPerm⟩
    have hTable :=
      tabulates_iff.mpr
        ⟨(show (entries declared).Ascending by
            rw [Assoc.Ascending, keys_entries]
            exact hAscending),
          hPerm.map _⟩
    rcases hEnds.exists_ok fun _ hNone => hNone _ hTable with
      ⟨table, after, hRun, _, hMade⟩
    rw [hMade.unique hTable] at hRun
    rw [run'_eq_ok_iff.mpr ⟨after, hRun⟩]
    exact congrArg Except.ok (values_entries declared)

end CommonTypes

end PolicyCheck
