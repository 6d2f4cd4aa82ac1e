import PolicyCheck.Proofs.OffendingNodes

/-
  Which errors the reading of data reports. Entities and
  contexts with an offending node are refused, and the error
  is the one of the first node that offends. The extension
  values of data that are accepted are those that are
  written, and their texts are literals of their kinds.

  Main declarations:
    * `ValueDocument.cases_of_toValue`
    * `ValueDocument.holds_iff_of_toValue`
    * `EntityDocument.Offender`
    * `Decides`
    * `first_offender_decides`
-/

namespace PolicyCheck

open Json (PathStep)

namespace ValueDocument

------------------------------------------------------------
-- Extension Values
------------------------------------------------------------

/- The forms of values, and what they are read from. -/
theorem cases_of_toValue
    {site : Site}
    {d : ValueDocument}
    {v : Value}
    (hOk : d.toValue site = .ok v) :
    (∃ elements values, d = .set elements ∧ v = .set values ∧
        elements.mapM (toValue site) = .ok values) ∨
      (∃ attrs values, d = .record attrs ∧ v = .record values ∧
        (attrs.mapM fun binding =>
          (toValue site binding.2).map (Prod.mk binding.1)) =
          .ok values) ∨
      (∃ function kind text,
        d = .extension function (.string text) ∧
          v = .extension kind text ∧
          Constructs function kind ∧ kind.Accepts text) ∨
      ((∀ elements, v ≠ .set elements) ∧
        (∀ attrs, v ≠ .record attrs) ∧
        ∀ kind text, v ≠ .extension kind text) := by
  cases d with
  | set elements =>
      rw [toValue, toValues_eq_mapM] at hOk
      rcases exists_ok_of_map hOk with ⟨values, hValues, rfl⟩
      exact Or.inl ⟨elements, values, rfl, rfl, hValues⟩
  | record attrs =>
      rw [toValue, toAttrs_eq_mapM] at hOk
      rcases exists_ok_of_map hOk with ⟨values, hValues, rfl⟩
      exact Or.inr (Or.inl ⟨attrs, values, rfl, rfl, hValues⟩)
  | extension function argument =>
      rw [toValue] at hOk
      rcases extensionValue_cases site function argument with
        ⟨kind, text, hKind, hText, rfl, hValue⟩ | ⟨e, _, hError⟩
      · rw [hValue] at hOk
        exact
          Or.inr
            (Or.inr
              (Or.inl
                ⟨function, kind, text, rfl,
                  (Except.ok.inj hOk).symm, hKind, hText⟩))
      · rw [hError] at hOk
        cases hOk
  | null =>
      rw [toValue] at hOk
      cases hOk
  | _ =>
      rw [toValue] at hOk
      rw [← Except.ok.inj hOk]
      simp

/- A part of a value was read from a node in the same place. -/
theorem exists_at_of_at_toValue
    {site : Site}
    {d : ValueDocument}
    {v w : Value}
    {path : List PathStep}
    (hAt : v.At path w)
    (hOk : d.toValue site = .ok v) :
    ∃ node, d.At path node ∧ node.toValue site = .ok w := by
  -- The induction is on the place in the value. The form of
  -- the value there tells the one of the document.
  induction hAt generalizing d with
  | here v => exact ⟨d, .here d, hOk⟩
  | item hPart _ ih =>
      rcases cases_of_toValue hOk with
        ⟨elements, values, rfl, hSet, hValues⟩ |
        ⟨_, _, _, hRecord, _⟩ | ⟨_, _, _, _, hValue, _⟩ | hOther
      · have hAll := forall₂_of_mapM hValues
        rw [Value.set.inj hSet] at hPart
        rcases exists_getElem?_of_forall₂ hAll.flip hPart with
          ⟨part, hSource, hRead⟩
        rcases ih hRead with ⟨node, hAt, hNode⟩
        exact ⟨node, .item hSource hAt, hNode⟩
      · cases hRecord
      · cases hValue
      · exact absurd rfl (hOther.1 _)
  | member hPart _ ih =>
      rcases cases_of_toValue hOk with
        ⟨_, _, _, hSet, _⟩ |
        ⟨attrs, values, rfl, hRecord, hValues⟩ |
        ⟨_, _, _, _, hValue, _⟩ | hOther
      · cases hSet
      · have hAll := forall₂_of_mapM hValues
        rw [Value.record.inj hRecord] at hPart
        rcases List.mem_iff_getElem?.mp hPart with ⟨index, hItem⟩
        rcases exists_getElem?_of_forall₂ hAll.flip hItem with
          ⟨⟨_, part⟩, hSource, hBinding⟩
        rcases exists_ok_of_map hBinding with ⟨_, hRead, hEq⟩
        rcases Prod.mk.inj hEq with ⟨rfl, rfl⟩
        rcases ih hRead with ⟨node, hAt, hNode⟩
        exact
          ⟨node, .member (List.mem_of_getElem? hSource) hAt, hNode⟩
      · cases hValue
      · exact absurd rfl (hOther.2.1 _)

/- Every node of a document gives the part in the same place. -/
theorem exists_at_toValue_of_at
    {site : Site}
    {d node : ValueDocument}
    {path : List PathStep}
    (hAt : d.At path node)
    {v : Value}
    (hOk : d.toValue site = .ok v) :
    ∃ w, v.At path w ∧ node.toValue site = .ok w := by
  induction hAt generalizing v with
  | here d => exact ⟨v, .here v, hOk⟩
  | item hPart _ ih =>
      rw [toValue, toValues_eq_mapM] at hOk
      rcases exists_ok_of_map hOk with ⟨values, hValues, rfl⟩
      have hAll := forall₂_of_mapM hValues
      rcases exists_getElem?_of_forall₂ hAll hPart with
        ⟨w, hValue, hRead⟩
      rcases ih hRead with ⟨part, hAt, hNode⟩
      exact ⟨part, .item hValue hAt, hNode⟩
  | member hPart _ ih =>
      rw [toValue, toAttrs_eq_mapM] at hOk
      rcases exists_ok_of_map hOk with ⟨values, hValues, rfl⟩
      rcases List.mem_iff_getElem?.mp hPart with ⟨index, hItem⟩
      have hAll := forall₂_of_mapM hValues
      rcases exists_getElem?_of_forall₂ hAll hItem with
        ⟨_, hValue, hBinding⟩
      rcases exists_ok_of_map hBinding with ⟨w, hRead, rfl⟩
      rcases ih hRead with ⟨part, hAt, hNode⟩
      exact ⟨part, .member (List.mem_of_getElem? hValue) hAt, hNode⟩

end ValueDocument

/- An extension value in a value, by its place, kind and text. -/
def Value.Holds
    (v : Value)
    (path : List PathStep)
    (literal : ExtensionKind × String) : Prop :=
  v.At path (.extension literal.1 literal.2)

/-
  A literal of a kind of extension values that is written in
  a document, by its place: the argument of an escape whose
  function makes values of that kind.
-/
structure ValueDocument.Writes
    (d : ValueDocument)
    (path : List PathStep)
    (literal : ExtensionKind × String) : Prop where
  accepted : literal.1.Accepts literal.2
  escaped :
    ∃ function, Constructs function literal.1 ∧
      d.At path (.extension function (.string literal.2))

/- A value holds the extension values that are written. -/
theorem ValueDocument.holds_iff_of_toValue
    {site : Site}
    {d : ValueDocument}
    {v : Value}
    (hOk : d.toValue site = .ok v)
    {path : List PathStep}
    {literal : ExtensionKind × String} :
    v.Holds path literal ↔ d.Writes path literal := by
  constructor
  · intro hHolds
    rcases exists_at_of_at_toValue hHolds hOk with
      ⟨node, hAt, hNode⟩
    rcases cases_of_toValue hNode with
      ⟨_, _, _, hSet, _⟩ | ⟨_, _, _, hRecord, _⟩ |
      ⟨function, kind, text, rfl, hValue, hKind, hText⟩ | hOther
    · cases hSet
    · cases hRecord
    · rcases Value.extension.inj hValue with ⟨rfl, rfl⟩
      exact ⟨hText, function, hKind, hAt⟩
    · exact absurd rfl (hOther.2.2 _ _)
  · intro ⟨hAccepted, function, hKind, hAt⟩
    rcases exists_at_toValue_of_at hAt hOk with ⟨w, hPart, hNode⟩
    have hValue :
        extensionValue site function (.string literal.2) =
          .ok (.extension literal.1 literal.2) := by
      rw [extensionValue, constructedKind?_eq_some_iff.mpr hKind]
      simp only [ExtensionKind.literalError?_eq_none_iff.mpr hAccepted]
    rw [toValue, hValue] at hNode
    rw [← Except.ok.inj hNode] at hPart
    exact hPart

------------------------------------------------------------
-- Entities And Contexts
------------------------------------------------------------

namespace EntityDocument

/-
  An offending node of a list of entities. The site of its
  error is the attribute it is in.
-/
def Offender
    (documents : List EntityDocument) :
    List PathStep → ValueError → Prop :=
  InItems
    (fun d =>
      InMembers (fun name v => v.OffendsIn (.attribute d.uid name))
        d.attrs)
    documents

/- The literals that are written in a list of entities. -/
def Written
    (documents : List EntityDocument) :
    List PathStep → ExtensionKind × String → Prop :=
  InItems (fun d => InMembers (fun _ v => v.Writes) d.attrs)
    documents

/- The attributes of an entity are read one by one. -/
theorem toAttrs_eq_mapM
    (uid : EntityUid)
    (attrs : Assoc String ValueDocument) :
    toAttrs uid attrs =
      attrs.mapM fun binding =>
        (binding.2.toValue (.attribute uid binding.1)).map
          (Prod.mk binding.1) := by
  induction attrs with
  | nil => rfl
  | cons binding rest ih =>
      rw [toAttrs, List.mapM_cons, ih]
      cases binding.2.toValue (.attribute uid binding.1) <;> rfl

/- An entity has its attributes and what is written beside them. -/
theorem toEntity_eq
    (d : EntityDocument) :
    d.toEntity =
      (toAttrs d.uid d.attrs).map fun attrs =>
        Entity.ofParts d.uid attrs d.parents := by
  unfold toEntity
  cases toAttrs d.uid d.attrs <;> rfl

/- A list of entities is refused for its first offending node. -/
theorem reports_mapM_toEntity
    {documents : List EntityDocument}
    (hOrdered : ∀ d ∈ documents, d.Ordered) :
    Reports (Offender documents) (documents.mapM toEntity) := by
  apply reports_items
  intro d hDocument
  have hTable :=
    ValueDocument.ordered_record_iff.mp (hOrdered d hDocument)
  rw [toEntity_eq, toAttrs_eq_mapM]
  apply Reports.map
  apply reports_members hTable.ascending
  intro binding hBinding
  apply Reports.map
  exact
    ValueDocument.reports_toValue _ (hTable.values binding hBinding)

end EntityDocument

/- The extension values that a list of entities holds. -/
def Entity.Held
    (entities : List Entity) :
    List PathStep → ExtensionKind × String → Prop :=
  InItems (fun entity => InMembers (fun _ v => v.Holds) entity.attrs)
    entities

/- The errors of values are errors of the data. -/
theorem Entity.ofDocuments_eq
    (documents : List EntityDocument) :
    Entity.ofDocuments documents =
      (documents.mapM EntityDocument.toEntity).mapError .value := by
  unfold Entity.ofDocuments
  cases documents.mapM EntityDocument.toEntity <;> rfl

/- Entities hold the extension values that are written. -/
theorem Entity.held_iff_of_mapM_toEntity
    {documents : List EntityDocument}
    {entities : List Entity}
    (hOk : documents.mapM EntityDocument.toEntity = .ok entities)
    {path : List PathStep}
    {literal : ExtensionKind × String} :
    Entity.Held entities path literal ↔
      EntityDocument.Written documents path literal := by
  refine (inItems_iff_of_forall₂ (forall₂_of_mapM hOk) ?_).symm
  intro d entity hEntity path literal
  rw [EntityDocument.toEntity_eq, EntityDocument.toAttrs_eq_mapM]
    at hEntity
  rcases exists_ok_of_map hEntity with ⟨attrs, hAttrs, rfl⟩
  refine inMembers_iff_of_forall₂ (forall₂_of_mapM hAttrs) ?_
  intro binding _ hBinding
  rcases exists_ok_of_map hBinding with ⟨w, hValue, rfl⟩
  refine ⟨rfl, fun path literal => ?_⟩
  exact (ValueDocument.holds_iff_of_toValue hValue).symm

namespace Context

/- An offending node of the attributes of a context. -/
def Offender
    (attrs : Assoc String ValueDocument) :
    List PathStep → ValueError → Prop :=
  InMembers (fun _ v => v.OffendsIn .context) attrs

/- The literals that are written in a context. -/
def Written
    (attrs : Assoc String ValueDocument) :
    List PathStep → ExtensionKind × String → Prop :=
  InMembers (fun _ v => v.Writes) attrs

/- The extension values that a context holds. -/
def Held
    (values : Assoc String Value) :
    List PathStep → ExtensionKind × String → Prop :=
  InMembers (fun _ v => v.Holds) values

/- The errors of values are errors of the context. -/
theorem ofDocument_record
    (attrs : Assoc String ValueDocument) :
    Context.ofDocument (.record attrs) =
      (ValueDocument.toAttrs .context attrs).mapError .value := by
  rw [ofDocument]
  cases ValueDocument.toAttrs .context attrs <;> rfl

/- A context is refused for its first offending node. -/
theorem reports_toAttrs
    {attrs : Assoc String ValueDocument}
    (hOrdered : (ValueDocument.record attrs).Ordered) :
    Reports (Offender attrs)
      (ValueDocument.toAttrs .context attrs) := by
  have hTable := ValueDocument.ordered_record_iff.mp hOrdered
  rw [ValueDocument.toAttrs_eq_mapM]
  apply reports_members hTable.ascending
  intro binding hBinding
  apply Reports.map
  exact
    ValueDocument.reports_toValue _ (hTable.values binding hBinding)

/- A context holds the extension values that are written. -/
theorem held_iff_of_toAttrs
    {attrs : Assoc String ValueDocument}
    {values : Assoc String Value}
    (hOk : ValueDocument.toAttrs .context attrs = .ok values)
    {path : List PathStep}
    {literal : ExtensionKind × String} :
    Held values path literal ↔ Written attrs path literal := by
  rw [ValueDocument.toAttrs_eq_mapM] at hOk
  refine (inMembers_iff_of_forall₂ (forall₂_of_mapM hOk) ?_).symm
  intro binding _ hBinding
  rcases exists_ok_of_map hBinding with ⟨w, hValue, rfl⟩
  refine ⟨rfl, fun path literal => ?_⟩
  exact (ValueDocument.holds_iff_of_toValue hValue).symm

end Context

------------------------------------------------------------
-- The First Offender
------------------------------------------------------------

/-
  `Decides offender written held result` means that data are
  accepted if no node of them offends, that the error is the
  one of the first node that does otherwise, and that what
  is accepted holds the extension values that are written,
  with literals of their kinds for texts.
-/
structure Decides
    {α : Type}
    (offender : List PathStep → ValueError → Prop)
    (written : List PathStep → ExtensionKind × String → Prop)
    (held : α → List PathStep → ExtensionKind × String → Prop)
    (result : Except DataError α) : Prop where
  accepted_iff :
    (∃ a, result = .ok a) ↔ ∀ path e, ¬ offender path e
  refused_iff :
    ∀ error, result = .error error ↔
      ∃ path e, IsFirst offender path e ∧ error = .value e
  held_iff :
    ∀ a, result = .ok a →
      ∀ path literal, held a path literal ↔ written path literal
  literals :
    ∀ a, result = .ok a →
      ∀ path kind text, held a path (kind, text) → kind.Accepts text

/- A fair result decides. -/
theorem decides_of_reports
    {α : Type}
    {offender : List PathStep → ValueError → Prop}
    {written : List PathStep → ExtensionKind × String → Prop}
    {held : α → List PathStep → ExtensionKind × String → Prop}
    {result : Except ValueError α}
    (hReports : Reports offender result)
    (hHeld :
      ∀ a, result = .ok a →
        ∀ path literal, held a path literal ↔ written path literal)
    (hLiterals :
      ∀ path kind text, written path (kind, text) →
        kind.Accepts text) :
    Decides offender written held (result.mapError .value) := by
  have hOk :
      ∀ a, result.mapError DataError.value = .ok a →
        result = .ok a := by
    intro a hOk
    cases result with
    | ok b => rw [Except.ok.inj hOk]
    | error e => cases hOk
  constructor
  · rw [← hReports.exists_ok_iff]
    constructor
    · intro ⟨a, hAccepted⟩
      exact ⟨a, hOk a hAccepted⟩
    · intro ⟨a, hAccepted⟩
      rw [hAccepted]
      exact ⟨a, rfl⟩
  · intro error
    constructor
    · intro hError
      cases hResult : result with
      | ok a =>
          rw [hResult] at hError
          cases hError
      | error e =>
          rw [hResult] at hError
          rcases hReports.eq_error_iff.mp hResult with ⟨path, hFirst⟩
          exact ⟨path, e, hFirst, (Except.error.inj hError).symm⟩
    · intro ⟨path, e, hFirst, hError⟩
      rw [hReports.eq_error_iff.mpr ⟨path, hFirst⟩, hError]
      rfl
  · intro a hAccepted
    exact hHeld a (hOk a hAccepted)
  · intro a hAccepted path kind text hIn
    apply hLiterals path
    exact (hHeld a (hOk a hAccepted) path (kind, text)).mp hIn

/- Written literals are literals of their kinds. -/
theorem Context.accepts_of_written
    {attrs : Assoc String ValueDocument}
    {path : List PathStep}
    {kind : ExtensionKind}
    {text : String}
    (hWritten : Context.Written attrs path (kind, text)) :
    kind.Accepts text := by
  cases hWritten with
  | intro _ hWrites => exact hWrites.accepted

/- The same for lists of entities. -/
theorem EntityDocument.accepts_of_written
    {documents : List EntityDocument}
    {path : List PathStep}
    {kind : ExtensionKind}
    {text : String}
    (hWritten : EntityDocument.Written documents path (kind, text)) :
    kind.Accepts text := by
  cases hWritten with
  | intro _ hWritten => exact Context.accepts_of_written hWritten

/-
  Lists of entities and contexts are accepted if no node in
  them offends, and refused for the first node that does.
  The extension values of what is accepted are those that
  are written, and carry literals of their kinds. This holds
  of all data whose tables are in order, as they are where
  data are read from documents.
-/
theorem first_offender_decides :
    (∀ documents : List EntityDocument,
      (∀ d ∈ documents, d.Ordered) →
        Decides (EntityDocument.Offender documents)
          (EntityDocument.Written documents) Entity.Held
          (Entity.ofDocuments documents)) ∧
      (∀ attrs : Assoc String ValueDocument,
        (ValueDocument.record attrs).Ordered →
          Decides (Context.Offender attrs) (Context.Written attrs)
            Context.Held (Context.ofDocument (.record attrs))) ∧
      (∀ j documents,
        Json.asList EntityDocument.decode j = .ok documents →
          ∀ d ∈ documents, d.Ordered) ∧
      ∀ j d, ValueDocument.decode j = .ok d → d.Ordered := by
  refine ⟨?_, ?_, ?_, fun j d => ValueDocument.ordered_of_decode⟩
  · intro documents hOrdered
    have hReports := EntityDocument.reports_mapM_toEntity hOrdered
    rw [Entity.ofDocuments_eq]
    refine decides_of_reports hReports ?_ ?_
    · intro entities hOk path literal
      exact Entity.held_iff_of_mapM_toEntity hOk
    · intro path kind text
      exact EntityDocument.accepts_of_written
  · intro attrs hOrdered
    have hReports := Context.reports_toAttrs hOrdered
    rw [Context.ofDocument_record]
    refine decides_of_reports hReports ?_ ?_
    · intro values hOk path literal
      exact Context.held_iff_of_toAttrs hOk
    · intro path kind text
      exact Context.accepts_of_written
  · intro j documents hOk d hDocument
    cases j with
    | arr items =>
        rcases exists_of_mem_mapM hOk hDocument with
          ⟨item, _, hRead⟩
        exact EntityDocument.ordered_of_decode hRead
    | _ => cases hOk

/-
  Two entities with three offending nodes. The first of them
  is the address from a number.
-/
def guestEntities : List EntityDocument :=
  [⟨⟨⟨"User"⟩, "ann"⟩,
      [("limit", .extension "decimal" (.string "1.5")),
        ("visits",
          .set
            [.string "none",
              .record
                [("from", .extension "ipaddr" (.long 3)),
                  ("until", .null)]])],
      []⟩,
    ⟨⟨⟨"User"⟩, "bob"⟩,
      [("limit", .extension "lessThan" (.string "1.5"))],
      []⟩]

/- The attributes of a context that offends nowhere. -/
def guestContext : Assoc String ValueDocument :=
  [("limits",
    .set [.long 1, .extension "decimal" (.string "1.5")])]

/- The tables of both are in order. -/
theorem guests_ordered :
    (∀ d ∈ guestEntities, d.Ordered) ∧
      (ValueDocument.record guestContext).Ordered := by
  have hLeaf :
      ∀ function argument,
        (ValueDocument.extension function argument).Ordered := by
    intro function argument
    exact ValueDocument.ordered_of_leaf (by simp) (by simp)
  have hVisit :
      (ValueDocument.record
        [("from", .extension "ipaddr" (.long 3)),
          ("until", .null)]).Ordered := by
    apply ValueDocument.ordered_record_iff.mpr
    refine ⟨by decide, ?_⟩
    simp only [List.forall_mem_cons]
    refine ⟨hLeaf _ _, ?_, by simp⟩
    exact ValueDocument.ordered_of_leaf (by simp) (by simp)
  refine ⟨?_, ?_⟩
  · simp only [guestEntities, List.forall_mem_cons]
    refine ⟨?_, ?_, by simp⟩
    · apply ValueDocument.ordered_record_iff.mpr
      refine ⟨by decide, ?_⟩
      simp only [List.forall_mem_cons, ValueDocument.ordered_set_iff]
      refine ⟨hLeaf _ _, ⟨?_, hVisit, by simp⟩, by simp⟩
      exact ValueDocument.ordered_of_leaf (by simp) (by simp)
    · apply ValueDocument.ordered_record_iff.mpr
      refine ⟨by decide, ?_⟩
      simp only [List.forall_mem_cons]
      exact ⟨hLeaf _ _, by simp⟩
  · apply ValueDocument.ordered_record_iff.mpr
    refine ⟨by decide, ?_⟩
    simp only [guestContext, List.forall_mem_cons,
      ValueDocument.ordered_set_iff]
    refine ⟨⟨?_, hLeaf _ _, by simp⟩, by simp⟩
    exact ValueDocument.ordered_of_leaf (by simp) (by simp)

/-
  The entities are refused for the first offender, and the
  context is accepted with a decimal in it.
-/
theorem guests_decided :
    (∀ d ∈ guestEntities, d.Ordered) ∧
      (ValueDocument.record guestContext).Ordered ∧
      (∃ path,
        IsFirst (EntityDocument.Offender guestEntities) path
          (.argumentNotString
            (.attribute ⟨⟨"User"⟩, "ann"⟩ "visits") "ipaddr")) ∧
      ExtensionKind.decimal.Accepts "1.5" := by
  have hDecimal :
      ∀ site,
        ValueDocument.extensionValue site "decimal" (.string "1.5") =
          .ok (.extension .decimal "1.5") := by
    have hKind :
        ValueDocument.constructedKind? "decimal" = some .decimal := rfl
    have hLiteral :
        ExtensionKind.decimal.literalError? "1.5" = none := by
      decide +kernel
    simp [ValueDocument.extensionValue, hKind, hLiteral]
  have hAddress :
      ∀ site,
        ValueDocument.extensionValue site "ipaddr" (.long 3) =
          .error (.argumentNotString site "ipaddr") :=
    fun _ => rfl
  have hRefused :
      Entity.ofDocuments guestEntities =
        .error (.value (.argumentNotString
          (.attribute ⟨⟨"User"⟩, "ann"⟩ "visits") "ipaddr")) := by
    simp [Entity.ofDocuments, guestEntities, EntityDocument.toEntity,
      EntityDocument.toAttrs, ValueDocument.toValue,
      ValueDocument.toValues, ValueDocument.toAttrs, hDecimal,
      hAddress, bind, Except.bind, Except.map]
  have hAccepted :
      Context.ofDocument (.record guestContext) =
        .ok [("limits",
          .set [.long 1, .extension .decimal "1.5"])] := by
    simp [Context.ofDocument, guestContext, ValueDocument.toValue,
      ValueDocument.toValues, ValueDocument.toAttrs, hDecimal,
      bind, Except.bind, Except.map]
  rcases guests_ordered with ⟨hEntities, hContext⟩
  refine ⟨hEntities, hContext, ?_, ?_⟩
  · rcases
      ((first_offender_decides.1 guestEntities
        hEntities).refused_iff _).mp hRefused with
      ⟨path, e, hFirst, hError⟩
    rw [DataError.value.inj hError]
    exact ⟨path, hFirst⟩
  · apply
      (first_offender_decides.2.1 guestContext hContext).literals _
        hAccepted [.member "limits", .item 1]
    exact .intro List.mem_cons_self (.item rfl (.here _))

end PolicyCheck
