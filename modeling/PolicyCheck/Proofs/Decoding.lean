import Mathlib.Tactic.SplitIfs
import PolicyCheck.Proofs.DistinctKeys
import PolicyCheck.Proofs.Ordered
import PolicyCheck.Schema.Fragment

/-
  What is read from a document is ordered, whatever the
  order of its members. A structure has what its defaults
  have and every field keeps, and tables bind each name at
  its place.

  Main declarations:
    * `Json.Layout.decode_induct`
    * `Json.TableOf`
    * `Json.tableOf_asMap`
    * `TypeSpec.decode_eq`
    * `TypeSpec.ordered_of_decode`
    * `NamespaceSpec.ordered_of_decode`
    * `Fragment.ordered_of_ofJson`
-/

------------------------------------------------------------
-- Structures
------------------------------------------------------------

namespace PolicyCheck

namespace Json

namespace Layout

variable {α : Type} {layout : Layout} {Good : α → Prop}

/- What every member keeps holds in the end. -/
theorem assembleMembers_induct
    {fills : List (String × (α → Decoded α))}
    (hFill :
      ∀ name fill, (name, fill) ∈ fills →
        ∀ a b, fill a = .ok b → Good a → Good b)
    {given : List String}
    {partly result : α}
    (hPartly : Good partly)
    (hOk :
      layout.assembleMembers given partly fills = .ok result) :
    Good result := by
  induction fills generalizing given partly with
  | nil =>
      unfold assembleMembers at hOk
      split at hOk
      · cases hOk
      · rw [← Except.ok.inj hOk]
        exact hPartly
  | cons member rest ih =>
      rcases member with ⟨name, fill⟩
      have hRest :
          ∀ other next, (other, next) ∈ rest →
            ∀ a b, next a = .ok b → Good a → Good b := by
        intro other next hMem
        exact hFill other next (List.mem_cons_of_mem _ hMem)
      unfold assembleMembers at hOk
      split at hOk
      · split at hOk
        · cases hOk
        · rcases exists_ok_of_bind hOk with ⟨next, hNext, hDone⟩
          have hGood : Good next :=
            hFill name fill List.mem_cons_self partly next hNext
              hPartly
          exact ih hRest hGood hDone
      · split at hOk
        · cases hOk
        · exact ih hRest hPartly hOk

/- What every item keeps holds in the end. -/
theorem assembleItems_induct
    {fills : List (String → α → Decoded α)}
    (hFill :
      ∀ fill ∈ fills, ∀ name a b,
        fill name a = .ok b → Good a → Good b)
    {fields : List String}
    {partly result : α}
    (hPartly : Good partly)
    (hOk :
      layout.assembleItems partly fields fills = .ok result) :
    Good result := by
  induction fills generalizing fields partly with
  | nil =>
      unfold assembleItems at hOk
      split at hOk
      · cases hOk
      · rw [← Except.ok.inj hOk]
        exact hPartly
  | cons fill rest ih =>
      cases fields with
      | nil => simp [assembleItems] at hOk
      | cons name left =>
          unfold assembleItems at hOk
          rcases exists_ok_of_bind hOk with ⟨next, hNext, hDone⟩
          have hGood : Good next :=
            hFill fill List.mem_cons_self name partly next hNext
              hPartly
          apply ih _ hGood hDone
          intro other hOther
          exact hFill other (List.mem_cons_of_mem _ hOther)

/- What the defaults have and each part keeps is read. -/
theorem decode_induct_of_parts
    (Good : α → Prop)
    {set : String → Json → α → Decoded α}
    {default : α}
    {j : Json}
    (hSet :
      ∀ part ∈ j.parts, ∀ name a b,
        set name part a = .ok b → Good a → Good b)
    (hDefault : Good default)
    {result : α}
    (hOk : layout.decode set default j = .ok result) :
    Good result := by
  cases j with
  | obj members =>
      refine assembleMembers_induct ?_ hDefault hOk
      intro name fill hFill
      rcases List.mem_map.mp hFill with ⟨⟨key, j⟩, hMember, hEq⟩
      rcases Prod.mk.inj hEq with ⟨rfl, rfl⟩
      exact hSet j (mem_parts_of_member hMember) key
  | arr items =>
      refine assembleItems_induct ?_ hDefault hOk
      intro fill hFill
      rcases List.mem_map.mp hFill with ⟨j, hItem, rfl⟩
      exact hSet j hItem
  | _ => simp [Layout.decode] at hOk

/- What every field keeps whatever it is read from is read. -/
theorem decode_induct
    (Good : α → Prop)
    {set : String → Json → α → Decoded α}
    {default : α}
    (hSet :
      ∀ name j a b, set name j a = .ok b → Good a → Good b)
    (hDefault : Good default)
    {j : Json}
    {result : α}
    (hOk : layout.decode set default j = .ok result) :
    Good result :=
  decode_induct_of_parts Good (fun part _ name => hSet name part)
    hDefault hOk

end Layout

------------------------------------------------------------
-- Tables
------------------------------------------------------------

variable {α : Type} {decode : Json → Decoded α}

/- A table in ascending order all of whose values are good. -/
structure TableOf
    (Good : α → Prop)
    (table : Assoc String α) : Prop where
  ascending : table.Ascending
  values : ∀ binding ∈ table, Good binding.2

/- An empty table has no values. -/
theorem tableOf_nil
    {Good : α → Prop} :
    TableOf Good [] :=
  ⟨Assoc.ascending_nil, by simp⟩

/- A table binds what was bound before and what was read. -/
theorem exists_of_mem_bindMembers
    {members : List (String × Json)}
    {done table : Assoc String α}
    (hOk : bindMembers decode done members = .ok table)
    {key : String}
    {a : α}
    (hMem : (key, a) ∈ table) :
    (key, a) ∈ done ∨
      ∃ j, (key, j) ∈ members ∧ decode j = .ok a := by
  induction members generalizing done with
  | nil =>
      rw [← Except.ok.inj hOk] at hMem
      exact Or.inl hMem
  | cons member rest ih =>
      rcases member with ⟨k, j⟩
      unfold bindMembers at hOk
      rcases exists_ok_of_bind hOk with ⟨value, hValue, hRest⟩
      rcases ih hRest with hBound | ⟨source, hSource, hRead⟩
      · rcases Assoc.mem_insert hBound with hNew | hOld
        · rcases Prod.mk.inj hNew with ⟨rfl, rfl⟩
          exact Or.inr ⟨j, List.mem_cons_self, hValue⟩
        · exact Or.inl hOld
      · exact Or.inr ⟨source, List.mem_cons_of_mem _ hSource, hRead⟩

/- What a key is bound to stays unless a member has the key. -/
theorem find?_of_bindMembers
    {members : List (String × Json)}
    {done table : Assoc String α}
    (hOk : bindMembers decode done members = .ok table)
    {key : String}
    (hOther : key ∉ Assoc.keys members) :
    table.find? key = done.find? key := by
  induction members generalizing done with
  | nil => rw [← Except.ok.inj hOk]
  | cons member rest ih =>
      rcases member with ⟨k, j⟩
      have hParts : key ≠ k ∧ key ∉ Assoc.keys rest := by
        simpa [Assoc.keys] using hOther
      unfold bindMembers at hOk
      rcases exists_ok_of_bind hOk with ⟨value, _, hRest⟩
      rw [ih hRest hParts.2, Assoc.find?_insert_of_ne hParts.1]

/- Where no key is repeated, each member is bound. -/
theorem exists_mem_of_bindMembers
    {members : List (String × Json)}
    (hKeys : (Assoc.keys members).Nodup)
    {done table : Assoc String α}
    (hOk : bindMembers decode done members = .ok table)
    {key : String}
    {j : Json}
    (hMember : (key, j) ∈ members) :
    ∃ a, decode j = .ok a ∧ (key, a) ∈ table := by
  induction members generalizing done with
  | nil => simp at hMember
  | cons member rest ih =>
      rcases member with ⟨k, first⟩
      have hParts : k ∉ Assoc.keys rest ∧ (Assoc.keys rest).Nodup :=
        List.nodup_cons.mp hKeys
      unfold bindMembers at hOk
      rcases exists_ok_of_bind hOk with ⟨value, hValue, hRest⟩
      rcases List.mem_cons.mp hMember with hHere | hThere
      · rcases Prod.mk.inj hHere with ⟨rfl, rfl⟩
        refine ⟨value, hValue, Assoc.mem_of_find? ?_⟩
        rw [find?_of_bindMembers hRest hParts.1,
          Assoc.find?_insert_self]
      · exact ih hParts.2 hRest hThere

/- Members are bound in ascending order. -/
theorem ascending_of_bindMembers
    {members : List (String × Json)}
    {done table : Assoc String α}
    (hDone : done.Ascending)
    (hOk : bindMembers decode done members = .ok table) :
    table.Ascending := by
  induction members generalizing done with
  | nil =>
      rw [← Except.ok.inj hOk]
      exact hDone
  | cons member rest ih =>
      rcases member with ⟨k, j⟩
      unfold bindMembers at hOk
      rcases exists_ok_of_bind hOk with ⟨value, _, hRest⟩
      exact ih (Assoc.ascending_insert hDone k value) hRest

/- A table that binds no key twice could have done so. -/
theorem bindMembers_of_bindUniqueMembers
    {members : List (String × Json)}
    {done table : Assoc String α}
    (hOk : bindUniqueMembers decode done members = .ok table) :
    bindMembers decode done members = .ok table := by
  induction members generalizing done with
  | nil => exact hOk
  | cons member rest ih =>
      rcases member with ⟨k, j⟩
      unfold bindUniqueMembers at hOk
      rcases exists_ok_of_bind hOk with ⟨value, hValue, hRest⟩
      split at hRest
      · cases hRest
      · rw [bindMembers, hValue]
        exact ih hRest

/- So both readings of an object give the same table. -/
theorem asMap_of_asUniqueMap
    {j : Json}
    {table : Assoc String α}
    (hOk : j.asUniqueMap decode = .ok table) :
    j.asMap decode = .ok table := by
  cases j with
  | obj members => exact bindMembers_of_bindUniqueMembers hOk
  | _ => cases hOk

/- A table is made of what is read from its parts. -/
theorem tableOf_asMap
    {Good : α → Prop}
    {j : Json}
    (hGood : ∀ part ∈ j.parts, ∀ a, decode part = .ok a → Good a)
    {table : Assoc String α}
    (hOk : j.asMap decode = .ok table) :
    TableOf Good table := by
  cases j with
  | obj members =>
      refine ⟨ascending_of_bindMembers Assoc.ascending_nil hOk, ?_⟩
      rintro ⟨key, a⟩ hMem
      rcases exists_of_mem_bindMembers hOk hMem with
        hNone | ⟨source, hSource, hRead⟩
      · simp at hNone
      · exact hGood source (mem_parts_of_member hSource) a hRead
  | _ => cases hOk

/- So is one that binds no key twice. -/
theorem tableOf_asUniqueMap
    {Good : α → Prop}
    (hGood : ∀ j a, decode j = .ok a → Good a)
    {j : Json}
    {table : Assoc String α}
    (hOk : j.asUniqueMap decode = .ok table) :
    TableOf Good table :=
  tableOf_asMap (fun part _ => hGood part) (asMap_of_asUniqueMap hOk)

/- What such a table binds was read. -/
theorem exists_of_mem_asUniqueMap
    {j : Json}
    {table : Assoc String α}
    (hOk : j.asUniqueMap decode = .ok table)
    {key : String}
    {a : α}
    (hMem : (key, a) ∈ table) :
    ∃ source, decode source = .ok a := by
  have hTable :
      TableOf (fun a => ∃ source, decode source = .ok a) table :=
    tableOf_asUniqueMap (fun j _ hRead => ⟨j, hRead⟩) hOk
  exact hTable.values (key, a) hMem

/- Every key of a table is one of the object. -/
theorem hasKey_of_asUniqueMap
    {j : Json}
    {table : Assoc String α}
    (hOk : j.asUniqueMap decode = .ok table)
    {key : String}
    (hKey : key ∈ table.keys) :
    j.hasKey key = true := by
  rcases List.mem_map.mp hKey with ⟨⟨key, a⟩, hMem, rfl⟩
  cases j with
  | obj members =>
      have hBound := bindMembers_of_bindUniqueMembers hOk
      rcases exists_of_mem_bindMembers hBound hMem with
        hNone | ⟨source, hSource, _⟩
      · simp at hNone
      · exact List.any_eq_true.mpr ⟨_, hSource, beq_self_eq_true key⟩
  | _ => cases hOk

/- Data that is present was read from the same place. -/
theorem good_of_asOption
    {Good : α → Prop}
    {j : Json}
    (hGood : ∀ a, decode j = .ok a → Good a)
    {value : Option α}
    (hOk : j.asOption decode = .ok value) :
    ∀ a, value = some a → Good a := by
  rintro a rfl
  cases j with
  | null => cases Except.ok.inj hOk
  | _ =>
      rcases exists_ok_of_map hOk with ⟨found, hFound, hEq⟩
      rw [Option.some.inj hEq] at hFound
      exact hGood a hFound

end Json

------------------------------------------------------------
-- Types
------------------------------------------------------------

namespace TypeSpec

/- Read one field of a type, and the types in it. -/
def readField
    (name : String)
    (j : Json)
    (spec : TypeSpec) : Json.Decoded TypeSpec :=
  setField name j decode decodeTable spec

/- It does not matter that types come read from their place. -/
theorem setField_eq_readField
    (name : String)
    (j : Json) :
    setField name j (fun _ => decode j) (fun _ => decodeTable j) =
      readField name j := by
  have hElement :
      j.asOption (fun _ => decode j) = j.asOption decode := by
    cases j <;> rfl
  have hAttributes :
      j.asOption (fun _ => decodeTable j) =
        j.asOption decodeTable := by
    cases j <;> rfl
  funext spec
  unfold readField setField
  rw [hElement, hAttributes]

/- Each member fills in the field of its name. -/
theorem fillMembers_eq_map
    (members : List (String × Json)) :
    fillMembers members =
      members.map fun member =>
        (member.1, readField member.1 member.2) := by
  induction members with
  | nil => rfl
  | cons member rest ih =>
      rw [fillMembers, setField_eq_readField, ih, List.map_cons]

/- Each item fills in the field that it stands for. -/
theorem fillItems_eq_map
    (items : List Json) :
    fillItems items = items.map fun j name => readField name j := by
  induction items with
  | nil => rfl
  | cons j rest ih =>
      rw [fillItems, ih, List.map_cons]
      congr
      funext name
      exact setField_eq_readField name j

/- A type is read like other structures. -/
theorem decode_eq :
    decode = layout.decode readField default := by
  funext j
  cases j with
  | obj members =>
      rw [decode, fillMembers_eq_map]
      rfl
  | arr items =>
      rw [decode, fillItems_eq_map]
      rfl
  | _ => simp [decode, Json.Layout.decode]

/- The types of a table are bound like other data. -/
theorem decodeBindings_eq
    (done : Assoc String TypeSpec)
    (members : List (String × Json)) :
    decodeBindings done members =
      Json.bindMembers decode done members := by
  induction members generalizing done with
  | nil => rw [decodeBindings, Json.bindMembers]
  | cons member rest ih =>
      rw [decodeBindings, Json.bindMembers]
      congr
      funext spec
      exact ih _

/- A table of types is read like other tables. -/
theorem decodeTable_eq :
    decodeTable = Json.asMap decode := by
  funext j
  cases j with
  | obj members =>
      rw [decodeTable]
      exact decodeBindings_eq [] members
  | _ => simp [decodeTable, Json.asMap]

/- A type is ordered when its element and attributes are. -/
theorem ordered_iff
    {spec : TypeSpec} :
    spec.Ordered ↔
      OrderedElement spec.element ∧
        OrderedAttributes spec.attributes := by
  cases spec
  rw [Ordered]

/- A table of types is ordered if each of them is. -/
theorem orderedTable_of_forall
    {table : Assoc String TypeSpec}
    (hAll : ∀ binding ∈ table, binding.2.Ordered) :
    OrderedTable table := by
  induction table with
  | nil => simp [OrderedTable]
  | cons binding rest ih =>
      rcases binding with ⟨name, spec⟩
      rw [List.forall_mem_cons] at hAll
      rw [OrderedTable]
      exact ⟨hAll.1, ih hAll.2⟩

/- A field that is read keeps a type ordered. -/
theorem ordered_of_readField
    {name : String}
    {j : Json}
    (hDecode : ∀ spec, decode j = .ok spec → spec.Ordered)
    (hTable :
      ∀ table, decodeTable j = .ok table →
        Assoc.Ascending table ∧ OrderedTable table)
    {spec result : TypeSpec}
    (hOk : readField name j spec = .ok result)
    (hSpec : spec.Ordered) :
    result.Ordered := by
  rw [ordered_iff] at hSpec
  unfold readField setField at hOk
  -- Only two of the fields matter, the others leave both alone.
  split_ifs at hOk
  all_goals
    rcases exists_ok_of_bind hOk with ⟨value, hValue, hDone⟩
    rw [← Except.ok.inj hDone, ordered_iff]
  · exact hSpec
  · refine ⟨?_, hSpec.2⟩
    cases value with
    | none => simp [OrderedElement]
    | some found =>
        simp only [OrderedElement]
        exact Json.good_of_asOption hDecode hValue found rfl
  · refine ⟨hSpec.1, ?_⟩
    cases value with
    | none => simp [OrderedAttributes]
    | some table =>
        simp only [OrderedAttributes]
        exact Json.good_of_asOption hTable hValue table rfl
  · exact hSpec
  · exact hSpec
  · exact hSpec
  · exact hSpec

/- A type that was read is ordered, and so is a table of types. -/
theorem ordered_of_read
    (j : Json) :
    (∀ spec, decode j = .ok spec → spec.Ordered) ∧
      ∀ table, decodeTable j = .ok table →
        Assoc.Ascending table ∧ OrderedTable table := by
  induction j using Json.parts_induction with
  | step j ih =>
      constructor
      · intro spec hOk
        have hDefault : (default : TypeSpec).Ordered := by
          rw [ordered_iff]
          simp [default, named, OrderedElement, OrderedAttributes]
        rw [decode_eq] at hOk
        refine
          Json.Layout.decode_induct_of_parts Ordered ?_ hDefault hOk
        intro part hPart name a b
        exact
          ordered_of_readField (ih part hPart).1 (ih part hPart).2
      · intro table hOk
        rw [decodeTable_eq] at hOk
        have hTable :=
          Json.tableOf_asMap (fun part hPart => (ih part hPart).1) hOk
        exact ⟨hTable.ascending, orderedTable_of_forall hTable.values⟩

/- A type that was read is ordered. -/
theorem ordered_of_decode
    (j : Json)
    (spec : TypeSpec)
    (hOk : decode j = .ok spec) :
    spec.Ordered :=
  (ordered_of_read j).1 spec hOk

/- A type that may be absent is ordered if it was read. -/
theorem ordered_of_asOption
    {j : Json}
    {value : Option TypeSpec}
    (hOk : j.asOption decode = .ok value) :
    ∀ spec, value = some spec → spec.Ordered :=
  Json.good_of_asOption (ordered_of_decode j) hOk

end TypeSpec

------------------------------------------------------------
-- Declarations And Fragments
------------------------------------------------------------

/- The shape of an entity type that was read is ordered. -/
theorem EntityTypeSpec.shape_ordered_of_decode
    {j : Json}
    {spec : EntityTypeSpec}
    (hOk : decode j = .ok spec) :
    ∀ shape, spec.shape = some shape → shape.Ordered := by
  refine
    Json.Layout.decode_induct
      (fun spec => ∀ shape, spec.shape = some shape → shape.Ordered)
      ?_ (by intro shape hNone; cases hNone) hOk
  intro name j a b hSet hGood
  unfold setField at hSet
  split_ifs at hSet
  all_goals
    rcases exists_ok_of_bind hSet with ⟨value, hValue, hDone⟩
    rw [← Except.ok.inj hDone]
  · exact hGood
  · exact TypeSpec.ordered_of_asOption hValue
  · exact hGood
  · exact hGood

/- The context of what an action applies to is ordered. -/
theorem AppliesTo.context_ordered_of_decode
    {j : Json}
    {spec : AppliesTo}
    (hOk : decode j = .ok spec) :
    ∀ context, spec.context = some context → context.Ordered := by
  refine
    Json.Layout.decode_induct
      (fun spec =>
        ∀ context, spec.context = some context → context.Ordered)
      ?_ (by intro context hNone; cases hNone) hOk
  intro name j a b hSet hGood
  unfold setField at hSet
  split_ifs at hSet
  all_goals
    rcases exists_ok_of_bind hSet with ⟨value, hValue, hDone⟩
    rw [← Except.ok.inj hDone]
  · exact hGood
  · exact hGood
  · exact TypeSpec.ordered_of_asOption hValue

/- Both places for the context of an action hold ordered types. -/
structure ActionSpec.OrderedContexts
    (spec : ActionSpec) : Prop where
  own : ∀ context, spec.context = some context → context.Ordered
  applied :
    ∀ appliesTo, spec.appliesTo = some appliesTo →
      ∀ context, appliesTo.context = some context →
        context.Ordered

namespace ActionSpec

/- The contexts of an action that was read are ordered. -/
theorem orderedContexts_of_decode
    {j : Json}
    {spec : ActionSpec}
    (hOk : decode j = .ok spec) :
    spec.OrderedContexts := by
  have hDefault : OrderedContexts default := by
    constructor
    · intro context hNone
      cases hNone
    · intro appliesTo hNone
      cases hNone
  refine
    Json.Layout.decode_induct OrderedContexts ?_ hDefault hOk
  intro name j a b hSet hGood
  unfold setField at hSet
  split_ifs at hSet
  all_goals
    rcases exists_ok_of_bind hSet with ⟨value, hValue, hDone⟩
    rw [← Except.ok.inj hDone]
  · have hApplied :=
      Json.good_of_asOption
        (fun _ => AppliesTo.context_ordered_of_decode) hValue
    exact ⟨hGood.own, hApplied⟩
  · exact ⟨TypeSpec.ordered_of_asOption hValue, hGood.applied⟩
  · exact ⟨hGood.own, hGood.applied⟩
  · exact ⟨hGood.own, hGood.applied⟩
  · exact ⟨hGood.own, hGood.applied⟩

/- So is the one that counts. -/
theorem OrderedContexts.contextSpec_ordered
    {spec : ActionSpec}
    (hContexts : spec.OrderedContexts) :
    ∀ context, spec.contextSpec = some context →
      context.Ordered := by
  intro context hContext
  unfold contextSpec at hContext
  cases hOwn : spec.context with
  | some own =>
      rw [hOwn, Option.some_or] at hContext
      rw [← Option.some.inj hContext]
      exact hContexts.own own hOwn
  | none =>
      rw [hOwn, Option.none_or] at hContext
      rcases Option.bind_eq_some_iff.mp hContext with
        ⟨appliesTo, hApplies, hInner⟩
      exact hContexts.applied appliesTo hApplies context hInner

end ActionSpec

/- The declarations of a namespace that was read are ordered. -/
theorem NamespaceSpec.ordered_of_decode
    {j : Json}
    {spec : NamespaceSpec}
    (hOk : decode j = .ok spec) :
    spec.Ordered := by
  have hDefault : (default : NamespaceSpec).Ordered := by
    constructor
    · intro name type hNone
      cases hNone
    · intro name entityType hNone
      cases hNone
    · intro name action hNone
      cases hNone
  refine Json.Layout.decode_induct Ordered ?_ hDefault hOk
  intro name j a b hSet hGood
  unfold setField at hSet
  split_ifs at hSet
  all_goals
    rcases exists_ok_of_bind hSet with ⟨value, hValue, hDone⟩
    rw [← Except.ok.inj hDone]
  · refine ⟨?_, hGood.shapes, hGood.contexts⟩
    intro key type hType
    rcases Json.exists_of_mem_asUniqueMap hValue hType with
      ⟨source, hSource⟩
    exact TypeSpec.ordered_of_decode source type hSource
  · refine ⟨hGood.common, ?_, hGood.contexts⟩
    intro key entityType hType
    rcases Json.exists_of_mem_asUniqueMap hValue hType with
      ⟨source, hSource⟩
    exact EntityTypeSpec.shape_ordered_of_decode hSource
  · refine ⟨hGood.common, hGood.shapes, ?_⟩
    intro key action hAction
    rcases Json.exists_of_mem_asUniqueMap hValue hAction with
      ⟨source, hSource⟩
    exact
      (ActionSpec.orderedContexts_of_decode
        hSource).contextSpec_ordered
  · exact ⟨hGood.common, hGood.shapes, hGood.contexts⟩

namespace Fragment

/- A fragment that was decoded is ordered. -/
theorem ordered_of_decode
    {j : Json}
    {fragment : Fragment}
    (hOk : decode j = .ok fragment) :
    fragment.Ordered := by
  unfold decode at hOk
  intro ns spec hMem
  split_ifs at hOk
  all_goals
    rcases exists_ok_of_bind hOk with ⟨value, hValue, hDone⟩
    rw [← Except.ok.inj hDone] at hMem
  · rcases Prod.mk.inj (List.mem_singleton.mp hMem) with ⟨_, rfl⟩
    exact NamespaceSpec.ordered_of_decode hValue
  · rcases Json.exists_of_mem_asUniqueMap hValue hMem with
      ⟨source, hSource⟩
    exact NamespaceSpec.ordered_of_decode hSource

/- A fragment is read where it can be decoded. -/
theorem decode_of_ofJson
    {j : Json}
    {fragment : Fragment}
    (hOk : ofJson j = .ok fragment) :
    decode j = .ok fragment := by
  unfold ofJson at hOk
  split at hOk
  · cases hOk
  · split at hOk
    · rename_i hDecoded
      rw [hDecoded, ← Except.ok.inj hOk]
    · cases hOk

/- The fragment of a document is ordered. -/
theorem ordered_of_ofJson
    {j : Json}
    {fragment : Fragment}
    (hOk : ofJson j = .ok fragment) :
    fragment.Ordered :=
  ordered_of_decode (decode_of_ofJson hOk)

end Fragment

end PolicyCheck
