import PolicyCheck.Proofs.ListedOrder

/-
  What the type of the context of a policy contains. It is
  made from the contexts of all actions that the scope lets
  through: an attribute is in it if every action declares it
  with a type that fits the one of the first action both
  ways. Which action comes first decides the type; the order
  and the number of the others do not matter.

  Main declarations:
    * `attr?_commonContext_eq_some_iff`
    * `commonContext_of_same_first`
    * `context_is_part_in_common`
-/

namespace PolicyCheck

------------------------------------------------------------
-- Attributes In Common
------------------------------------------------------------

section Common

variable
  {first : RecordType}
  {rest : List RecordType}

/-
  The attributes of the common context: the first context
  gives the type, all contexts together decide whether the
  attribute is there and whether it is required.
-/
theorem attr?_commonContext_eq_some_iff
    (hOrdered : (Ty.record first).Ordered)
    {name : String}
    {kept : AttributeType} :
    (commonContext (first :: rest)).attr? name = some kept ↔
      ∃ declared,
        first.attr? name = some declared ∧
          sharedIn (first :: rest) name declared.type = true ∧
          kept.type = declared.type ∧
          kept.required = requiredIn (first :: rest) name := by
  rw [attr?_commonContext hOrdered, Option.bind_eq_some_iff]
  constructor
  · intro hFound
    rcases hFound with ⟨declared, hDeclared, hKept⟩
    rcases keepAttr_eq_some_iff.mp hKept with
      ⟨hShared, hType, hRequired⟩
    rw [required_and_requiredIn List.mem_cons_self hDeclared]
      at hRequired
    exact ⟨declared, hDeclared, hShared, hType, hRequired⟩
  · intro hLeft
    rcases hLeft with
      ⟨declared, hDeclared, hShared, hType, hRequired⟩
    refine ⟨declared, hDeclared, keepAttr_eq_some_iff.mpr ?_⟩
    rw [required_and_requiredIn List.mem_cons_self hDeclared]
    exact ⟨hShared, hType, hRequired⟩

/- An attribute is in the common context if all share it. -/
theorem exists_attr?_commonContext_iff
    (hOrdered : (Ty.record first).Ordered)
    {name : String} :
    (∃ kept,
        (commonContext (first :: rest)).attr? name = some kept) ↔
      ∃ declared,
        first.attr? name = some declared ∧
          sharedIn (first :: rest) name declared.type = true := by
  simp only [attr?_commonContext_eq_some_iff hOrdered]
  constructor
  · intro hKept
    rcases hKept with ⟨_, declared, hDeclared, hShared, _⟩
    exact ⟨declared, hDeclared, hShared⟩
  · intro hEverywhere
    rcases hEverywhere with ⟨declared, hDeclared, hShared⟩
    exact
      ⟨⟨declared.type, requiredIn (first :: rest) name⟩, declared,
        hDeclared, hShared, rfl, rfl⟩

/- Only the first context has to stay in its place. -/
theorem commonContext_of_same_first
    {others : List RecordType}
    (hOrdered :
      ∀ context ∈ first :: rest, (Ty.record context).Ordered)
    (hSame :
      ∀ context, context ∈ first :: rest ↔ context ∈ first :: others) :
    commonContext (first :: rest) =
      commonContext (first :: others) := by
  rw [commonContext_eq_iff hOrdered hSame]
  rintro _ ⟨⟩ _ ⟨⟩ name a b hA hB _
  rw [Option.some.inj (hA.symm.trans hB)]

end Common

------------------------------------------------------------
-- Policies
------------------------------------------------------------

/-
  The context of a policy has the attributes that all
  candidates declare with types that fit the one of the first
  candidate both ways. They have that type, are required if
  all candidates require them, and the context is open if
  that of one candidate is. So the candidates after the first
  can come in any order, and more than once. Without
  candidates nothing is known of the context.
-/
theorem context_is_part_in_common
    {allowUnknown : Bool}
    {fragments : List Fragment}
    {schema : Schema}
    (hBuilt : Schema.build allowUnknown fragments = .ok schema)
    (hOrdered : ∀ fragment ∈ fragments, fragment.Ordered)
    (policy : Policy) :
    (∀ first rest,
      schema.candidates policy.action = first :: rest →
        (∀ name,
          (∃ kept,
              (Env.ofPolicy schema policy).context.attr? name =
                some kept) ↔
            ∀ action ∈ first :: rest, ∃ declared other,
              first.context.attr? name = some declared ∧
                action.context.attr? name = some other ∧
                Ty.fits declared.type other.type = true ∧
                Ty.fits other.type declared.type = true) ∧
          (∀ name kept,
            (Env.ofPolicy schema policy).context.attr? name =
                some kept →
              (∃ declared,
                first.context.attr? name = some declared ∧
                  kept.type = declared.type) ∧
                (kept.required = true ↔
                  ∀ action ∈ first :: rest, ∃ other,
                    action.context.attr? name = some other ∧
                      other.required = true)) ∧
          ((Env.ofPolicy schema policy).context.isOpen = true ↔
            ∃ action ∈ first :: rest,
              action.context.isOpen = true) ∧
          ∀ others : List ActionInfo,
            (∀ action,
              action ∈ first :: rest ↔ action ∈ first :: others) →
              commonContext
                  ((first :: others).map ActionInfo.context) =
                (Env.ofPolicy schema policy).context) ∧
      (schema.candidates policy.action = [] →
        (Env.ofPolicy schema policy).context = .anything) := by
  have hContext :
      (Env.ofPolicy schema policy).context =
        commonContext (schema.contexts policy.action) :=
    rfl
  have hContexts :=
    Schema.contexts_ordered_of_build hBuilt hOrdered policy.action
  rw [hContext]
  unfold Schema.contexts at hContexts ⊢
  refine ⟨?_, ?_⟩
  · intro first rest hCandidates
    rw [hCandidates, List.map_cons] at hContexts ⊢
    have hFirst := hContexts first.context List.mem_cons_self
    refine ⟨?_, ?_, ?_, ?_⟩
    · intro name
      rw [exists_attr?_commonContext_iff hFirst]
      simp only [sharedIn_iff, ← List.map_cons, List.forall_mem_map]
      constructor
      · rintro ⟨declared, hDeclared, hShared⟩ action hAction
        rcases hShared action hAction with ⟨other, hOther, hFits⟩
        exact ⟨declared, other, hDeclared, hOther, hFits⟩
      · intro hAll
        rcases hAll first List.mem_cons_self with
          ⟨declared, _, hDeclared, _⟩
        refine ⟨declared, hDeclared, ?_⟩
        intro action hAction
        rcases hAll action hAction with
          ⟨same, other, hSame, hOther, hFits⟩
        rw [Option.some.inj (hDeclared.symm.trans hSame)]
        exact ⟨other, hOther, hFits⟩
    · intro name kept hKept
      rcases (attr?_commonContext_eq_some_iff hFirst).mp hKept with
        ⟨declared, hDeclared, _, hType, hRequired⟩
      refine ⟨⟨declared, hDeclared, hType⟩, ?_⟩
      rw [hRequired, requiredIn_iff, ← List.map_cons,
        List.forall_mem_map]
    · rw [RecordOf.isOpen, openness_commonContext,
        Openness.isOpen_ofBool, ← List.map_cons, List.any_map,
        List.any_eq_true]
      rfl
    · intro others hSame
      symm
      apply commonContext_of_same_first hContexts
      intro context
      simp only [← List.map_cons, List.mem_map, hSame]
  · intro hCandidates
    rw [hCandidates]
    rfl

/- An action of clerks on boxes that asks for some attributes. -/
def archiveSpec
    (attributes : List (String × Json))
    (additional : Bool) : Json :=
  .obj [("appliesTo", .obj [
    ("principalTypes", .arr [.str "Clerk"]),
    ("resourceTypes", .arr [.str "Box"]),
    ("context", .obj [
      ("type", .str "Record"),
      ("attributes", .obj attributes),
      ("additionalAttributes", .bool additional)])])]

/- Boxes are borrowed, copied and read. -/
def archiveDocument : Json :=
  .obj [
    ("entityTypes", .obj [("Box", .obj []), ("Clerk", .obj [])]),
    ("actions", .obj [
      ("borrow", archiveSpec
        [("days", .obj [("type", .str "Long")]),
          ("reason", .obj [("type", .str "String")]),
          ("urgent", .obj [("type", .str "Boolean")])] false),
      ("copy", archiveSpec
        [("pages", .obj [("type", .str "Long")]),
          ("reason", .obj [("type", .str "String")]),
          ("urgent", .obj [
            ("type", .str "Boolean"),
            ("required", .bool false)])] false),
      ("read", archiveSpec
        [("reason", .obj [("type", .str "String")]),
          ("urgent", .obj [("type", .str "Boolean")])] true)])]

/- An action of clerks on boxes. -/
def archiveAction
    (id : String)
    (context : RecordType) : ActionInfo :=
  ⟨⟨⟨"Action"⟩, id⟩, [⟨"Clerk"⟩], [⟨"Box"⟩], context, []⟩

/- To borrow a box. -/
def borrowing : ActionInfo :=
  archiveAction "borrow"
    ⟨[("days", ⟨.long, true⟩), ("reason", ⟨.string, true⟩),
      ("urgent", ⟨.bool, true⟩)], .closedAttributes⟩

/- To copy a box. -/
def copying : ActionInfo :=
  archiveAction "copy"
    ⟨[("pages", ⟨.long, true⟩), ("reason", ⟨.string, true⟩),
      ("urgent", ⟨.bool, false⟩)], .closedAttributes⟩

/- To read a box. -/
def reading : ActionInfo :=
  archiveAction "read"
    ⟨[("reason", ⟨.string, true⟩), ("urgent", ⟨.bool, true⟩)],
      .openAttributes⟩

/- The schema of the archive. -/
def archiveSchema : Schema :=
  ⟨[(⟨"Box"⟩, ⟨⟨"Box"⟩, .anything, []⟩),
      (⟨"Clerk"⟩, ⟨⟨"Clerk"⟩, .anything, []⟩)],
    [(borrowing.name, borrowing), (copying.name, copying),
      (reading.name, reading)],
    []⟩

/- A policy on all that is done in the archive. -/
def archivePolicy : Policy :=
  ⟨⟨"archive"⟩, .permit, .any, .any, .any, []⟩

/-
  All actions ask for a reason and, one of them optionally,
  whether it is urgent. The context has these two attributes
  only, and it stays the same if reading comes before copying,
  and once more after it.
-/
theorem archive_context_in_common :
    ∃ fragment,
      Fragment.ofJson archiveDocument = .ok fragment ∧
      Schema.build false [fragment] = .ok archiveSchema ∧
      archiveSchema.candidates .any = [borrowing, copying, reading] ∧
      (∃ kept,
        (Env.ofPolicy archiveSchema archivePolicy).context.attr?
            "urgent" = some kept ∧
          kept.type = .bool ∧ kept.required = false) ∧
      (¬ ∃ kept,
        (Env.ofPolicy archiveSchema archivePolicy).context.attr?
          "days" = some kept) ∧
      commonContext
          ([borrowing, reading, copying, reading].map
            ActionInfo.context) =
        (Env.ofPolicy archiveSchema archivePolicy).context := by
  have hFragment :
      ∃ fragment,
        Fragment.ofJson archiveDocument = .ok fragment ∧
          Schema.build false [fragment] = .ok archiveSchema :=
    ⟨_, rfl, rfl⟩
  rcases hFragment with ⟨fragment, hRead, hBuilt⟩
  have hOrdered : ∀ other ∈ [fragment], other.Ordered := by
    simpa using Fragment.ordered_of_ofJson hRead
  have hCandidates :
      archiveSchema.candidates .any = [borrowing, copying, reading] :=
    rfl
  obtain ⟨hDeclared, hKept, _, hOthers⟩ :=
    (context_is_part_in_common hBuilt hOrdered archivePolicy).1
      borrowing [copying, reading] hCandidates
  have hShared :
      ∀ action ∈ [borrowing, copying, reading], ∃ declared other,
        borrowing.context.attr? "urgent" = some declared ∧
          action.context.attr? "urgent" = some other ∧
          Ty.fits declared.type other.type = true ∧
          Ty.fits other.type declared.type = true := by
    intro action hAction
    simp only [List.mem_cons, List.not_mem_nil, or_false] at hAction
    rcases hAction with rfl | rfl | rfl
    · exact ⟨_, _, rfl, rfl, rfl, rfl⟩
    · exact ⟨_, _, rfl, rfl, rfl, rfl⟩
    · exact ⟨_, _, rfl, rfl, rfl, rfl⟩
  refine ⟨fragment, hRead, hBuilt, hCandidates, ?_, ?_, ?_⟩
  · rcases (hDeclared "urgent").mpr hShared with ⟨kept, hUrgent⟩
    rcases hKept "urgent" kept hUrgent with
      ⟨⟨declared, hFirst, hType⟩, hRequired⟩
    refine ⟨kept, hUrgent, ?_, ?_⟩
    · rw [hType, ← Option.some.inj hFirst]
    · rw [← Bool.not_eq_true, hRequired]
      intro hAll
      rcases hAll copying (by simp) with ⟨other, hOther, hTrue⟩
      rw [← Option.some.inj hOther] at hTrue
      cases hTrue
  · rw [hDeclared "days"]
    intro hAll
    rcases hAll reading (by simp) with ⟨_, other, _, hOther, _⟩
    cases hOther
  · apply hOthers [reading, copying, reading]
    intro action
    simp only [List.mem_cons, List.not_mem_nil, or_false]
    grind

end PolicyCheck
