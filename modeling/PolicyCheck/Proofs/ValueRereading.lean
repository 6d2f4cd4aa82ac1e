import PolicyCheck.Proofs.Fitting
import PolicyCheck.Proofs.Rereading
import PolicyCheck.Value.Document

/-
  Values that are written and read again. Reading forgets
  the members that an escape ignores and the order of the
  others, but never so much that a malformed escape turns
  into an escape: what can be read from the written form of
  a document can be read from the document.

  Main declarations:
    * `ValueDocument.escapedEntity?_eq_some_iff`
    * `ValueDocument.exists_decode_of_toJson`
    * `ValueDocument.comesBack_of_read`
    * `value_comes_back`
-/

namespace PolicyCheck

------------------------------------------------------------
-- Escapes
------------------------------------------------------------

namespace ValueDocument

/-
  Where no key is repeated, the only member under a key is
  the member of that key.
-/
theorem single?_filterMap_eq_some_iff
    {α : Type}
    {read : Json → Json.Decoded α}
    {key : String}
    {members : List (String × Json)}
    (hKeys : (Assoc.keys members).Nodup)
    {a : α} :
    single?
          (members.filterMap fun member =>
            if member.1 = key then some (read member.2) else none) =
        some a ↔
      ∃ j, (key, j) ∈ members ∧ read j = .ok a := by
  induction members with
  | nil => simp [single?]
  | cons member rest ih =>
      rcases member with ⟨k, j⟩
      have hParts : k ∉ Assoc.keys rest ∧ (Assoc.keys rest).Nodup :=
        List.nodup_cons.mp hKeys
      by_cases hKey : k = key
      · subst hKey
        have hNone :
            rest.filterMap (fun member =>
                if member.1 = k then some (read member.2) else none) =
              [] := by
          rw [List.filterMap_eq_nil_iff]
          rintro ⟨other, value⟩ hMem
          rw [if_neg]
          rintro rfl
          exact hParts.1 (Assoc.mem_keys_of_mem hMem)
        have hOnly : ∀ value, (k, value) ∉ rest := by
          intro value hMem
          exact hParts.1 (Assoc.mem_keys_of_mem hMem)
        simp only [List.filterMap_cons, if_true, hNone]
        cases hRead : read j <;> simp [single?, hRead, hOnly]
      · have hOther : key ≠ k := Ne.symm hKey
        simp only [List.filterMap_cons, if_neg hKey, ih hParts.2]
        simp [hOther]

/- An object escapes the entity under the key of such escapes. -/
theorem escapedEntity?_eq_some_iff
    {members : List (String × Json)}
    (hKeys : (Assoc.keys members).Nodup)
    {uid : EntityUid} :
    escapedEntity? members = some uid ↔
      ∃ j, (entityKey, j) ∈ members ∧ EntityUid.decode j = .ok uid :=
  single?_filterMap_eq_some_iff hKeys

/- The members under the key of extension escapes are read. -/
theorem decodeEscapes_eq_filterMap
    (members : List (String × Json)) :
    decodeEscapes members =
      members.filterMap fun member =>
        if member.1 = extensionKey then some (decodeCall member.2)
        else none := by
  induction members with
  | nil => rfl
  | cons member rest ih =>
      rcases member with ⟨k, j⟩
      rw [decodeEscapes, ih]
      by_cases hKey : k = extensionKey
      · simp only [List.filterMap_cons, if_pos hKey]
      · simp only [List.filterMap_cons, if_neg hKey]

/- An object escapes the call under the key of such escapes. -/
theorem single?_decodeEscapes_eq_some_iff
    {members : List (String × Json)}
    (hKeys : (Assoc.keys members).Nodup)
    {call : Call} :
    single? (decodeEscapes members) = some call ↔
      ∃ j, (extensionKey, j) ∈ members ∧ decodeCall j = .ok call := by
  rw [decodeEscapes_eq_filterMap]
  exact single?_filterMap_eq_some_iff hKeys

------------------------------------------------------------
-- Reading And Writing
------------------------------------------------------------

/- Read one field of an extension escape. -/
def Call.readField
    (name : String)
    (j : Json)
    (call : Call) : Json.Decoded Call :=
  Call.setField name j (decode j) call

/- An extension escape is read like other structures. -/
theorem decodeCall_eq :
    decodeCall = extensionLayout.decode Call.readField default := by
  have hMembers :
      ∀ members,
        fillMembers members =
          members.map fun member =>
            (member.1, Call.readField member.1 member.2) := by
    intro members
    induction members with
    | nil => rfl
    | cons member rest ih =>
        rw [fillMembers, ih, List.map_cons]
        rfl
  have hItems :
      ∀ items,
        fillItems items =
          items.map fun j name => Call.readField name j := by
    intro items
    induction items with
    | nil => rfl
    | cons j rest ih =>
        rw [fillItems, ih, List.map_cons]
        rfl
  funext j
  cases j with
  | obj members =>
      rw [decodeCall, hMembers]
      rfl
  | arr items =>
      rw [decodeCall, hItems]
      rfl
  | _ => simp [decodeCall, Json.Layout.decode]

/- The elements of a set are read one by one. -/
theorem decodeItems_eq_mapM
    (items : List Json) :
    decodeItems items = items.mapM decode := by
  induction items with
  | nil => rfl
  | cons j rest ih =>
      rw [decodeItems, List.mapM_cons, ih]
      rfl

/- The attributes of a record are bound like other data. -/
theorem decodeAttrs_eq
    (done : Assoc String ValueDocument)
    (members : List (String × Json)) :
    decodeAttrs done members =
      Json.bindMembers decode done members := by
  induction members generalizing done with
  | nil => rw [decodeAttrs, Json.bindMembers]
  | cons member rest ih =>
      rw [decodeAttrs, Json.bindMembers]
      congr
      funext d
      exact ih _

/- A set is written as the array of its elements. -/
theorem toJson_set
    (elements : List ValueDocument) :
    (set elements).toJson = .arr (elements.map toJson) := by
  rw [toJson]
  induction elements with
  | nil => rfl
  | cons d rest ih =>
      rw [Json.arr.injEq] at ih ⊢
      rw [toJsonItems, ih, List.map_cons]

/- A record is written as the object of its attributes. -/
theorem toJson_record
    (attrs : Assoc String ValueDocument) :
    (record attrs).toJson = .obj (attrs.mapValues toJson) := by
  rw [toJson]
  induction attrs with
  | nil => rfl
  | cons binding rest ih =>
      rw [Json.obj.injEq] at ih ⊢
      rw [toJsonAttrs, ih]
      rfl

/- An integer that fits is written as it was. -/
theorem toJson_of_decodeLong
    {i : Int}
    {d : ValueDocument}
    (hOk : decodeLong i = .ok d) :
    d.toJson = .num (.int i) := by
  unfold decodeLong at hOk
  split at hOk
  · rename_i hFits
    have hBounds : Bounded.least ≤ i ∧ i ≤ Bounded.greatest := by
      simpa only [Bounded.fits, Bool.and_eq_true, decide_eq_true_eq]
        using hFits
    have hSame : (Int64.ofInt i).toInt = i := by
      apply Int64.toInt_ofInt_of_le
      · exact hBounds.1
      · exact Int.lt_add_one_of_le hBounds.2
    rw [← Except.ok.inj hOk, toJson, Value.longToJson, hSame]
    rfl
  · cases hOk

/-
  What is neither an array nor an object is written as it
  was.
-/
theorem cases_of_decode
    {j : Json}
    {d : ValueDocument}
    (hOk : decode j = .ok d) :
    d.toJson = j ∨
      (∃ items elements, j = .arr items ∧
        items.mapM decode = .ok elements ∧ d = .set elements) ∨
      ∃ members, j = .obj members := by
  cases j with
  | arr items =>
      rw [decode] at hOk
      rcases exists_ok_of_map hOk with ⟨elements, hItems, hSet⟩
      rw [decodeItems_eq_mapM] at hItems
      exact
        Or.inr
          (Or.inl ⟨items, elements, rfl, hItems, hSet.symm⟩)
  | obj members => exact Or.inr (Or.inr ⟨members, rfl⟩)
  | num n =>
      cases n with
      | int i =>
          rw [decode] at hOk
          exact Or.inl (toJson_of_decodeLong hOk)
      | float x =>
          rw [decode] at hOk
          cases hOk
  | _ =>
      rw [decode] at hOk
      rw [← Except.ok.inj hOk, toJson]
      exact Or.inl rfl

/- The forms that an object can have, and when it has them. -/
theorem cases_of_decode_obj
    {members : List (String × Json)}
    {d : ValueDocument}
    (hOk : decode (.obj members) = .ok d) :
    (∃ uid, d = .entity uid) ∨
      (∃ call, single? (decodeEscapes members) = some call ∧
        d = .extension call.function call.argument) ∨
      (escapedEntity? members = none ∧
        single? (decodeEscapes members) = none ∧
        ∃ attrs, Json.bindMembers decode [] members = .ok attrs ∧
          d = .record attrs) := by
  rw [decode] at hOk
  split at hOk
  · exact Or.inl ⟨_, (Except.ok.inj hOk).symm⟩
  · rename_i hEntity
    split at hOk
    · rename_i call hCall
      exact Or.inr (Or.inl ⟨call, hCall, (Except.ok.inj hOk).symm⟩)
    · rename_i hCall
      rcases exists_ok_of_map hOk with ⟨attrs, hAttrs, hRecord⟩
      rw [decodeAttrs_eq] at hAttrs
      exact
        Or.inr
          (Or.inr ⟨hEntity, hCall, attrs, hAttrs, hRecord.symm⟩)

------------------------------------------------------------
-- Sources
------------------------------------------------------------

/- Only a string is read as what is written as a string. -/
theorem eq_str_of_decode
    {j : Json}
    {d : ValueDocument}
    (hOk : decode j = .ok d)
    {s : String}
    (hStr : d.toJson = .str s) :
    j = .str s := by
  rcases cases_of_decode hOk with
    hSame | ⟨items, elements, rfl, _, rfl⟩ | ⟨members, rfl⟩
  · rw [← hSame, hStr]
  · simp [toJson_set] at hStr
  · rcases cases_of_decode_obj hOk with
      ⟨uid, rfl⟩ | ⟨call, _, rfl⟩ | ⟨_, _, attrs, _, rfl⟩
    · simp [toJson] at hStr
    · simp [toJson] at hStr
    · simp [toJson_record] at hStr

/- The only member of an escape is none that a structure needs. -/
theorem not_decode_escape
    {α : Type}
    {layout : Json.Layout}
    {set : String → Json → α → Json.Decoded α}
    {default a : α}
    {Readable : String → Json → Prop}
    (hUniform : Json.Layout.Uniform set Readable)
    (hRequired : ∀ name ∈ layout.required, name ∈ layout.fields)
    {name key : String}
    (hName : name ∈ layout.required)
    (hOther : name ≠ key)
    (value : Json) :
    layout.decode set default (.obj [(key, value)]) ≠ .ok a := by
  intro hOk
  have hFits :=
    (Json.Layout.exists_decode_obj_iff hUniform hRequired
      (by simp [Assoc.keys])).mp ⟨a, hOk⟩
  have hGiven := hFits.required name hName
  simp [Assoc.keys, hOther] at hGiven

/- Members fit a structure if those of the written record do. -/
theorem fits_of_record
    {layout : Json.Layout}
    {Readable : String → Json → Prop}
    (hSource :
      ∀ name j d, decode j = .ok d → Readable name d.toJson →
        Readable name j)
    {members : List (String × Json)}
    (hKeys : (Assoc.keys members).Nodup)
    {attrs : Assoc String ValueDocument}
    (hAttrs : Json.bindMembers decode [] members = .ok attrs)
    (hFits : layout.Fits Readable [] (attrs.mapValues toJson)) :
    layout.Fits Readable [] members := by
  have hWritten :
      ∀ key j, (key, j) ∈ members →
        ∃ d, decode j = .ok d ∧
          (key, d.toJson) ∈ attrs.mapValues toJson := by
    intro key j hMember
    rcases Json.exists_mem_of_bindMembers hKeys hAttrs hMember with
      ⟨d, hRead, hBound⟩
    exact ⟨d, hRead, List.mem_map.mpr ⟨(key, d), hBound, rfl⟩⟩
  refine ⟨?_, ?_, ?_⟩
  · rintro ⟨key, j⟩ hMember hField
    rcases hWritten key j hMember with ⟨d, hRead, hMem⟩
    exact hSource key j d hRead (hFits.readable _ hMem hField)
  · rintro hClosed ⟨key, j⟩ hMember
    rcases hWritten key j hMember with ⟨d, _, hMem⟩
    exact hFits.known hClosed (key, d.toJson) hMem
  · intro name hName
    have hKey := hFits.required name hName
    rw [List.nil_append, Assoc.keys_mapValues] at hKey
    rcases List.mem_map.mp hKey with ⟨⟨name, d⟩, hBound, rfl⟩
    rcases Json.exists_of_mem_bindMembers hAttrs hBound with
      hNone | ⟨j, hMember, _⟩
    · simp at hNone
    · exact Assoc.mem_keys_of_mem hMember

/-
  Data that can be read from what a value is written as can
  be read from what the value was read from.
-/
theorem exists_decode_of_toJson
    {α : Type}
    {layout : Json.Layout}
    {set : String → Json → α → Json.Decoded α}
    {default : α}
    {Readable : String → Json → Prop}
    (hUniform : Json.Layout.Uniform set Readable)
    (hSource :
      ∀ name j d, decode j = .ok d → Readable name d.toJson →
        Readable name j)
    (hRequired : ∀ name ∈ layout.required, name ∈ layout.fields)
    (hNoEscape :
      ∃ name ∈ layout.required,
        name ≠ entityKey ∧ name ≠ extensionKey)
    {j : Json}
    (hKeys : j.NoRepeats)
    {d : ValueDocument}
    (hRead : decode j = .ok d)
    {a : α}
    (hOk : layout.decode set default d.toJson = .ok a) :
    ∃ b, layout.decode set default j = .ok b := by
  rcases hNoEscape with ⟨name, hName, hEntity, hExtension⟩
  rcases cases_of_decode hRead with
    hSame | ⟨items, elements, rfl, hItems, rfl⟩ | ⟨members, rfl⟩
  · rw [hSame] at hOk
    exact ⟨a, hOk⟩
  · rw [toJson_set] at hOk
    refine
      Json.Layout.exists_assembleItems_of_forall₂ hUniform ?_ hOk
        default
    rw [List.forall₂_map_right_iff]
    apply (forall₂_of_mapM hItems).imp
    intro j d hElement name
    exact hSource name j d hElement
  · have hNodup := (Json.noRepeats_obj_iff.mp hKeys).1
    rcases cases_of_decode_obj hRead with
      ⟨uid, rfl⟩ | ⟨call, _, rfl⟩ | ⟨_, _, attrs, hAttrs, rfl⟩
    · rw [toJson] at hOk
      exact
        absurd hOk
          (not_decode_escape hUniform hRequired hName hEntity _)
    · rw [toJson] at hOk
      exact
        absurd hOk
          (not_decode_escape hUniform hRequired hName hExtension _)
    · have hAscending :=
        Json.ascending_of_bindMembers Assoc.ascending_nil hAttrs
      have hWritten : (Assoc.keys (attrs.mapValues toJson)).Nodup := by
        rw [Assoc.keys_mapValues]
        exact hAscending.nodup
      rw [toJson_record] at hOk
      rw [Json.Layout.exists_decode_obj_iff hUniform hRequired hNodup]
      apply fits_of_record hSource hNodup hAttrs
      exact
        (Json.Layout.exists_decode_obj_iff hUniform hRequired
          hWritten).mp ⟨a, hOk⟩

------------------------------------------------------------
-- Sources Of Escapes
------------------------------------------------------------

/- An identifier is readable where its strings are. -/
theorem uniform_entityUid :
    Json.Layout.Uniform EntityUid.setField
      fun _ j => ∃ s, j = .str s := by
  constructor
  · intro name j a b hOk
    unfold EntityUid.setField at hOk
    split at hOk
    all_goals
      rcases exists_ok_of_bind hOk with ⟨value, hValue, _⟩
      cases j with
      | str s => exact ⟨s, rfl⟩
      | _ => cases hValue
  · rintro name _ ⟨s, rfl⟩ a
    unfold EntityUid.setField
    split
    all_goals exact ⟨_, rfl⟩

/- An extension escape is readable if its function is a string. -/
theorem uniform_call :
    Json.Layout.Uniform Call.readField fun name j =>
      if name = "fn" then ∃ s, j = .str s
      else ∃ d, decode j = .ok d := by
  constructor
  · intro name j a b hOk
    unfold Call.readField Call.setField at hOk
    split at hOk
    · rename_i hName
      rw [if_pos hName]
      rcases exists_ok_of_bind hOk with ⟨value, hValue, _⟩
      cases j with
      | str s => exact ⟨s, rfl⟩
      | _ => cases hValue
    · rename_i hName
      rw [if_neg hName]
      rcases exists_ok_of_bind hOk with ⟨value, hValue, _⟩
      exact ⟨value, hValue⟩
  · intro name j hReadable a
    unfold Call.readField Call.setField
    split at hReadable
    · rename_i hName
      rcases hReadable with ⟨s, rfl⟩
      rw [if_pos hName]
      exact ⟨_, rfl⟩
    · rename_i hName
      rcases hReadable with ⟨d, hRead⟩
      rw [if_neg hName, hRead]
      exact ⟨_, rfl⟩

/- An entity that the written form escapes, the source escapes. -/
theorem exists_entityUid_of_toJson
    {j : Json}
    (hKeys : j.NoRepeats)
    {d : ValueDocument}
    (hRead : decode j = .ok d)
    {uid : EntityUid}
    (hOk : EntityUid.decode d.toJson = .ok uid) :
    ∃ other, EntityUid.decode j = .ok other := by
  refine
    exists_decode_of_toJson uniform_entityUid ?_ (fun _ hName => hName)
      ⟨"type", by decide, by decide, by decide⟩ hKeys hRead hOk
  rintro _ j d hOk ⟨s, hStr⟩
  exact ⟨s, eq_str_of_decode hOk hStr⟩

/- A call that the written form escapes, the source escapes. -/
theorem exists_call_of_toJson
    {j : Json}
    (hKeys : j.NoRepeats)
    {d : ValueDocument}
    (hRead : decode j = .ok d)
    {call : Call}
    (hOk : decodeCall d.toJson = .ok call) :
    ∃ other, decodeCall j = .ok other := by
  rw [decodeCall_eq] at hOk ⊢
  refine
    exists_decode_of_toJson uniform_call ?_ (fun _ hName => hName)
      ⟨"fn", by decide, by decide, by decide⟩ hKeys hRead hOk
  intro name j d hOk hReadable
  split at hReadable
  · rename_i hName
    rcases hReadable with ⟨s, hStr⟩
    rw [if_pos hName]
    exact ⟨s, eq_str_of_decode hOk hStr⟩
  · rename_i hName
    rw [if_neg hName]
    exact ⟨d, hOk⟩

------------------------------------------------------------
-- Values That Come Back
------------------------------------------------------------

open Json (Denotes ComesBack TableOf Writes)

/- An identifier comes back. -/
theorem comesBack_entityUid
    (uid : EntityUid) :
    ComesBack EntityUid.decode EntityUid.toJson uid := by
  rcases uid with ⟨type, id⟩
  have hType :
      Writes EntityUid.setField ["type"] [("type", type.toJson)] default
        ⟨type, ""⟩ :=
    Writes.field EntityUid.setField "type" (fun type => ⟨type, ""⟩)
      (⟨.str _, rfl⟩ : Denotes EntityType.decode type.toJson type) rfl
  have hId :
      Writes EntityUid.setField ["id"] [("id", .str id)] ⟨type, ""⟩
        ⟨type, id⟩ :=
    Writes.field EntityUid.setField "id" (fun id => ⟨type, id⟩)
      (Json.denotes_str id) rfl
  exact
    (hType.append hId).denotes (by decide)
      (by simp [EntityUid.layout, Assoc.keys])

/- An entity comes back. -/
theorem comesBack_entity
    (uid : EntityUid) :
    ComesBack decode toJson (.entity uid) := by
  have hUid := comesBack_entityUid uid
  have hKeys : (Assoc.keys [(entityKey, uid.toJson)]).Nodup := by
    simp [Assoc.keys]
  have hEscape : escapedEntity? [(entityKey, uid.toJson)] = some uid :=
    (escapedEntity?_eq_some_iff hKeys).mpr
      ⟨uid.toJson, List.mem_singleton_self _, hUid.reread⟩
  rw [ComesBack, toJson]
  constructor
  · rw [Json.noRepeats_obj_iff]
    refine ⟨hKeys, ?_⟩
    intro member hMember
    rw [List.mem_singleton.mp hMember]
    exact hUid.noRepeats
  · rw [decode, hEscape]

/- The function and the argument of an escape come back. -/
theorem denotes_call
    (function : String)
    {argument : ValueDocument}
    (hArgument : ComesBack decode toJson argument) :
    Denotes decodeCall
      (.obj [("fn", .str function), ("arg", argument.toJson)])
      ⟨function, argument⟩ := by
  have hFunction :
      Writes Call.readField ["fn"] [("fn", .str function)] default
        ⟨function, default⟩ :=
    Writes.field Call.readField "fn"
      (fun function => ⟨function, default⟩)
      (Json.denotes_str function) rfl
  have hArg :
      Writes Call.readField ["arg"] [("arg", argument.toJson)]
        ⟨function, default⟩ ⟨function, argument⟩ :=
    Writes.field Call.readField "arg"
      (fun argument => ⟨function, argument⟩) hArgument rfl
  rw [decodeCall_eq]
  exact
    (hFunction.append hArg).denotes (by decide)
      (by simp [extensionLayout, Assoc.keys])

/- An extension value comes back if its argument does. -/
theorem comesBack_extension
    (function : String)
    {argument : ValueDocument}
    (hArgument : ComesBack decode toJson argument) :
    ComesBack decode toJson (.extension function argument) := by
  have hCall := denotes_call function hArgument
  rw [ComesBack, toJson]
  generalize
    Json.obj [("fn", .str function), ("arg", argument.toJson)] = j
    at hCall ⊢
  have hKeys : (Assoc.keys [(extensionKey, j)]).Nodup := by
    simp [Assoc.keys]
  have hNoEntity : escapedEntity? [(extensionKey, j)] = none := rfl
  have hEscape :
      single? (decodeEscapes [(extensionKey, j)]) =
        some ⟨function, argument⟩ :=
    (single?_decodeEscapes_eq_some_iff hKeys).mpr
      ⟨j, List.mem_singleton_self _, hCall.reread⟩
  constructor
  · rw [Json.noRepeats_obj_iff]
    refine ⟨hKeys, ?_⟩
    intro member hMember
    rw [List.mem_singleton.mp hMember]
    exact hCall.noRepeats
  · rw [decode, hNoEntity, hEscape]

/- A set comes back if its elements do. -/
theorem comesBack_set
    {elements : List ValueDocument}
    (hElements : ∀ d ∈ elements, ComesBack decode toJson d) :
    ComesBack decode toJson (.set elements) := by
  have hList := Denotes.list hElements
  rw [ComesBack, toJson_set]
  refine ⟨hList.noRepeats, ?_⟩
  have hReread : (elements.map toJson).mapM decode = .ok elements :=
    hList.reread
  rw [decode, decodeItems_eq_mapM, hReread]
  rfl

/- A record comes back if its attributes do and escape nothing. -/
theorem comesBack_record
    {attrs : Assoc String ValueDocument}
    (hAttrs : TableOf (ComesBack decode toJson) attrs)
    (hNoEntity :
      ∀ d, (entityKey, d) ∈ attrs →
        ∀ uid, EntityUid.decode d.toJson ≠ .ok uid)
    (hNoCall :
      ∀ d, (extensionKey, d) ∈ attrs →
        ∀ call, decodeCall d.toJson ≠ .ok call) :
    ComesBack decode toJson (.record attrs) := by
  have hTable := Denotes.map hAttrs
  have hKeys := (Json.noRepeats_obj_iff.mp hTable.noRepeats).1
  have hEntity : escapedEntity? (attrs.mapValues toJson) = none := by
    rw [Option.eq_none_iff_forall_ne_some]
    intro uid hEscape
    rcases (escapedEntity?_eq_some_iff hKeys).mp hEscape with
      ⟨j, hMember, hUid⟩
    rcases List.mem_map.mp hMember with ⟨⟨key, d⟩, hBound, hEq⟩
    rcases Prod.mk.inj hEq with ⟨rfl, rfl⟩
    exact hNoEntity d hBound uid hUid
  have hCall :
      single? (decodeEscapes (attrs.mapValues toJson)) = none := by
    rw [Option.eq_none_iff_forall_ne_some]
    intro call hEscape
    rcases (single?_decodeEscapes_eq_some_iff hKeys).mp hEscape with
      ⟨j, hMember, hCall⟩
    rcases List.mem_map.mp hMember with ⟨⟨key, d⟩, hBound, hEq⟩
    rcases Prod.mk.inj hEq with ⟨rfl, rfl⟩
    exact hNoCall d hBound call hCall
  have hReread :
      Json.bindMembers decode [] (attrs.mapValues toJson) = .ok attrs :=
    hTable.reread
  rw [ComesBack, toJson_record]
  refine ⟨hTable.noRepeats, ?_⟩
  rw [decode, hEntity, hCall, decodeAttrs_eq, hReread]
  rfl

/- A value that was read from an object comes back. -/
theorem comesBack_of_obj
    {members : List (String × Json)}
    (hKeys : (Json.obj members).NoRepeats)
    (hValues :
      ∀ part ∈ (Json.obj members).parts,
        (∀ d, decode part = .ok d → ComesBack decode toJson d) ∧
          ∀ call, decodeCall part = .ok call →
            ComesBack decode toJson call.argument)
    {d : ValueDocument}
    (hOk : decode (.obj members) = .ok d) :
    ComesBack decode toJson d := by
  have hNodup := (Json.noRepeats_obj_iff.mp hKeys).1
  rcases cases_of_decode_obj hOk with
    ⟨uid, rfl⟩ | ⟨call, hCall, rfl⟩ |
      ⟨hEntity, hCall, attrs, hAttrs, rfl⟩
  · exact comesBack_entity uid
  · rcases (single?_decodeEscapes_eq_some_iff hNodup).mp hCall with
      ⟨j, hMember, hRead⟩
    have hPart := Json.mem_parts_of_member hMember
    exact
      comesBack_extension call.function
        ((hValues j hPart).2 call hRead)
  · -- An escape in the written form would be one in the source.
    have hSources :
        ∀ key d, (key, d) ∈ attrs →
          ∃ j, (key, j) ∈ members ∧ j.NoRepeats ∧
            decode j = .ok d := by
      intro key d hBound
      rcases Json.exists_of_mem_bindMembers hAttrs hBound with
        hNone | ⟨j, hMember, hRead⟩
      · simp at hNone
      · exact
          ⟨j, hMember,
            hKeys.of_mem_parts (Json.mem_parts_of_member hMember),
            hRead⟩
    apply comesBack_record
    · exact
        Json.tableOf_asMap (fun part hPart => (hValues part hPart).1)
          hAttrs
    · intro d hBound uid hUid
      rcases hSources entityKey d hBound with
        ⟨j, hMember, hPart, hRead⟩
      rcases exists_entityUid_of_toJson hPart hRead hUid with
        ⟨other, hOther⟩
      have hEscape :=
        (escapedEntity?_eq_some_iff hNodup).mpr ⟨j, hMember, hOther⟩
      simp [hEntity] at hEscape
    · intro d hBound call hEscaped
      rcases hSources extensionKey d hBound with
        ⟨j, hMember, hPart, hRead⟩
      rcases exists_call_of_toJson hPart hRead hEscaped with
        ⟨other, hOther⟩
      have hEscape :=
        (single?_decodeEscapes_eq_some_iff hNodup).mpr
          ⟨j, hMember, hOther⟩
      simp [hCall] at hEscape

/-
  A value that was read comes back, and so does the argument
  of an extension escape.
-/
theorem comesBack_of_read
    {j : Json}
    (hKeys : j.NoRepeats) :
    (∀ d, decode j = .ok d → ComesBack decode toJson d) ∧
      ∀ call, decodeCall j = .ok call →
        ComesBack decode toJson call.argument := by
  induction j using Json.parts_induction with
  | step j ih =>
      have hParts := fun part hPart =>
        ih part hPart (hKeys.of_mem_parts hPart)
      constructor
      · intro d hOk
        rcases cases_of_decode hOk with
          hSame | ⟨items, elements, rfl, hItems, rfl⟩ | ⟨members, rfl⟩
        · rw [ComesBack, hSame]
          exact ⟨hKeys, hOk⟩
        · apply comesBack_set
          intro d hElement
          rcases exists_of_mem_mapM hItems hElement with
            ⟨item, hItem, hRead⟩
          exact (hParts item hItem).1 d hRead
        · exact comesBack_of_obj hKeys hParts hOk
      · intro call hOk
        rw [decodeCall_eq] at hOk
        refine
          Json.Layout.decode_induct_of_parts
            (fun call => ComesBack decode toJson call.argument) ?_
            (comesBack_entity default) hOk
        intro part hPart name a b hSet hGood
        unfold Call.readField Call.setField at hSet
        split at hSet
        · rcases exists_ok_of_bind hSet with ⟨value, _, hDone⟩
          rw [← Except.ok.inj hDone]
          exact hGood
        · rcases exists_ok_of_bind hSet with ⟨value, hValue, hDone⟩
          rw [← Except.ok.inj hDone]
          exact (hParts part hPart).1 value hValue

end ValueDocument

/-
  Whatever document a value was read from, its written form
  has no repeats and is read as the same value. A repeated
  key would make an escape malformed, and be gone from the
  written form.
-/
theorem value_comes_back
    {j : Json}
    (hKeys : j.NoRepeats)
    {document : ValueDocument}
    (hOk : ValueDocument.decode j = .ok document) :
    document.toJson.NoRepeats ∧
      ValueDocument.decode document.toJson = .ok document := by
  have hBack := (ValueDocument.comesBack_of_read hKeys).1 document hOk
  exact ⟨hBack.noRepeats, hBack.reread⟩

/-
  A document with escapes that hold more than they need or
  are given as arrays, and with objects that miss being
  escapes by a member.
-/
def badgeDocument : Json :=
  .obj
    [("owner", .obj
        [("note", .null),
          ("__entity", .arr [.str "User", .str "ann"])]),
      ("near", .obj
        [("__extn", .obj
          [("fn", .str "ip"), ("arg", .ofInt 1), ("more", .null)])]),
      ("like", .obj [("__entity", .obj [("id", .str "ann")])]),
      ("call", .obj
        [("__extn", .obj
          [("arg", .obj
              [("__entity", .obj
                [("id", .str "ann"), ("more", .null),
                  ("type", .str "User")])]),
            ("fn", .str "ip")])])]

/- The value that is read from it. -/
def badgeValue : ValueDocument :=
  .record
    [("call", .extension "ip" (.entity ⟨⟨"User"⟩, "ann"⟩)),
      ("like", .record [("__entity", .record [("id", .string "ann")])]),
      ("near", .record
        [("__extn", .record
          [("arg", .long 1), ("fn", .string "ip"), ("more", .null)])]),
      ("owner", .entity ⟨⟨"User"⟩, "ann"⟩)]

/- Of its four attributes two are escapes, before and after. -/
theorem badgeValue_comes_back :
    badgeDocument.NoRepeats ∧
      ValueDocument.decode badgeDocument = .ok badgeValue ∧
      badgeValue.toJson.NoRepeats ∧
      ValueDocument.decode badgeValue.toJson = .ok badgeValue := by
  have hKeys : badgeDocument.NoRepeats := by
    simp [badgeDocument, Assoc.keys, Json.ofInt]
  have hOk : ValueDocument.decode badgeDocument = .ok badgeValue := by
    rfl
  exact ⟨hKeys, hOk, value_comes_back hKeys hOk⟩

end PolicyCheck
