import PolicyCheck.Proofs.Decoding
import PolicyCheck.Proofs.Samples
import PolicyCheck.Validator

/-
  How far strict mode closes records. Data is tight where a
  closed record type has only its declared attributes. The
  record at the top of accepted data is always tight. Below
  it nothing is looked at, so all of the data is tight
  exactly if no record type below the top is closed.

  Main declarations:
    * `Ty.Visits`
    * `RecordOf.Tight`
    * `RecordOf.TightThroughout`
    * `Ty.hasClosed`
    * `Ty.exists_loose_of_hasClosed`
    * `RecordOf.tightThroughout_of_accepts`
    * `RecordOf.exists_accepted_loose`
    * `strict_mode_closes_top_records`
-/

------------------------------------------------------------
-- Tight Data
------------------------------------------------------------

namespace PolicyCheck

/-
  A record type and a record in the same place, found by
  following declared attributes and the first elements of
  sets.
-/
inductive Ty.Visits :
    Ty → Value → RecordType → Assoc String Value → Prop where
  | here
      (shape : RecordType)
      (values : Assoc String Value) :
      Visits (.record shape) (.record values) shape values
  | attr
      {shape inner : RecordType}
      {values found : Assoc String Value}
      {name : String}
      {declared : AttributeType}
      {value : Value}
      (hDeclared : (name, declared) ∈ shape.attrs)
      (hValue : values.find? name = some value)
      (hRest : Visits declared.type value inner found) :
      Visits (.record shape) (.record values) inner found
  | element
      {element : Ty}
      {first : Value}
      {rest : List Value}
      {inner : RecordType}
      {found : Assoc String Value}
      (hRest : Visits element first inner found) :
      Visits (.set element) (.set (first :: rest)) inner found

namespace RecordOf

/- A closed record type has no attributes but its own. -/
def Tight
    (shape : RecordType)
    (values : Assoc String Value) : Prop :=
  shape.isOpen = false → ∀ name ∈ values.keys, name ∈ shape.names

/- All records that are found from the top are tight. -/
def TightThroughout
    (shape : RecordType)
    (values : Assoc String Value) : Prop :=
  ∀ inner found,
    Ty.Visits (.record shape) (.record values) inner found →
      inner.Tight found

end RecordOf

------------------------------------------------------------
-- Closed Record Types
------------------------------------------------------------

namespace Ty

mutual

/- A type has a closed record type in it. -/
def hasClosed : Ty → Bool
  | .set element => hasClosed element
  | .record ⟨attrs, openness⟩ =>
      !openness.isOpen || hasClosedAttrs attrs
  | _ => false

/- The type of an attribute has a closed record type in it. -/
def hasClosedAttrs : List (String × Attribute Ty) → Bool
  | [] => false
  | (_, ⟨type, _⟩) :: rest => hasClosed type || hasClosedAttrs rest

end

/- One attribute is enough. -/
theorem hasClosedAttrs_of_mem
    {attrs : List (String × Attribute Ty)}
    {name : String}
    {declared : AttributeType}
    (hMem : (name, declared) ∈ attrs)
    (hClosed : hasClosed declared.type = true) :
    hasClosedAttrs attrs = true := by
  induction attrs with
  | nil => simp at hMem
  | cons binding rest ih =>
      rcases binding with ⟨key, type, required⟩
      rw [hasClosedAttrs, Bool.or_eq_true]
      rcases List.mem_cons.mp hMem with hHere | hThere
      · rcases Prod.mk.inj hHere with ⟨rfl, rfl⟩
        exact Or.inl hClosed
      · exact Or.inr (ih hThere)

/- A closed record type is found only where there is one. -/
theorem hasClosed_of_visits
    {ty : Ty}
    {value : Value}
    {inner : RecordType}
    {found : Assoc String Value}
    (hVisits : Visits ty value inner found)
    (hClosed : inner.isOpen = false) :
    hasClosed ty = true := by
  induction hVisits with
  | here shape values =>
      have hOpenness : shape.openness.isOpen = false := hClosed
      rw [hasClosed, hOpenness]
      rfl
  | attr hDeclared _ _ ih =>
      rw [hasClosed, Bool.or_eq_true]
      exact Or.inr (hasClosedAttrs_of_mem hDeclared (ih hClosed))
  | element _ ih =>
      rw [hasClosed]
      exact ih hClosed

end Ty

/- No record type below the top is closed. -/
def RecordOf.openBelow
    (shape : RecordType) : Bool :=
  !Ty.hasClosedAttrs shape.attrs

/-
  Strict mode makes the top of a record tight, and with it
  all of the record if nothing is closed below.
-/
theorem RecordOf.tightThroughout_of_accepts
    {shape : RecordType}
    {values : Assoc String Value}
    (hAccepts : shape.Accepts .strict values)
    (hOpen : shape.openBelow = true) :
    shape.TightThroughout values := by
  have hNone : Ty.hasClosedAttrs shape.attrs = false := by
    simpa [openBelow] using hOpen
  intro inner found hVisits
  cases hVisits with
  | here => exact hAccepts.2 rfl
  | attr hDeclared _ hRest =>
      intro hClosed
      have hSome :=
        Ty.hasClosedAttrs_of_mem hDeclared
          (Ty.hasClosed_of_visits hRest hClosed)
      rw [hNone] at hSome
      exact Bool.noConfusion hSome

------------------------------------------------------------
-- Loose Data
------------------------------------------------------------

/- There is a name that is not in a list. -/
theorem exists_fresh_name
    (names : List String) :
    ∃ name, name ∉ names := by
  have hLonger :
      ∃ length, ∀ name ∈ names, name.length < length := by
    induction names with
    | nil => exact ⟨0, by simp⟩
    | cons first rest ih =>
        rcases ih with ⟨length, hRest⟩
        refine ⟨max length (first.length + 1), ?_⟩
        intro name hName
        rcases List.mem_cons.mp hName with rfl | hThere
        · omega
        · have hLt := hRest name hThere
          omega
  rcases hLonger with ⟨length, hAll⟩
  refine ⟨String.ofList (List.replicate length 'x'), ?_⟩
  intro hMem
  have hLt := hAll _ hMem
  simp at hLt

namespace Ty

/-
  A value of the type has a record in it that is not tight.
-/
structure Loose
    (ty : Ty)
    (value : Value) : Prop where
  ordered : value.Ordered
  conforms : ty.conforms value = true
  visits :
    ∃ inner found,
      Visits ty value inner found ∧ ¬ inner.Tight found

/- A closed record type has a value with one attribute too many. -/
theorem exists_loose_of_closed
    {attrs : List (String × Attribute Ty)}
    (hAscending : Assoc.Ascending attrs)
    (hOrdered : OrderedAttrs attrs) :
    ∃ value, Loose (.record ⟨attrs, .closedAttributes⟩) value := by
  rcases exists_fresh_name (Assoc.keys attrs) with ⟨name, hFresh⟩
  refine
    ⟨.record (Assoc.insert name (.bool true) (sampleAttrs attrs)),
      ?_, ?_, ⟨⟨attrs, .closedAttributes⟩, _, .here _ _, ?_⟩⟩
  · apply Value.record_insert_ordered
    · exact record_sampleAttrs_ordered hAscending hOrdered
    · simp [Value.Ordered]
  · rw [Ty.conforms, conformsAttrs_iff]
    intro other declared hDeclared
    refine
      admits_sampleAttrs_insert hAscending hOrdered ?_ hDeclared
    intro own hOwn
    exact absurd (Assoc.mem_keys_of_mem hOwn) hFresh
  · intro hTight
    apply hFresh
    apply hTight rfl
    exact
      Assoc.mem_keys_of_mem
        (Assoc.mem_of_find? (Assoc.find?_insert_self _ _ _))

/- A record is loose if the value of one of its attributes is. -/
theorem loose_insert
    {attrs : List (String × Attribute Ty)}
    (hAscending : Assoc.Ascending attrs)
    (hOrdered : OrderedAttrs attrs)
    (openness : Openness)
    {name : String}
    {declared : AttributeType}
    (hDeclared : (name, declared) ∈ attrs)
    {value : Value}
    (hLoose : Loose declared.type value) :
    Loose (.record ⟨attrs, openness⟩)
      (.record (Assoc.insert name value (sampleAttrs attrs))) := by
  refine ⟨?_, ?_, ?_⟩
  · apply Value.record_insert_ordered _ _ hLoose.ordered
    exact record_sampleAttrs_ordered hAscending hOrdered
  · rw [Ty.conforms, conformsAttrs_iff]
    intro other found hFound
    refine admits_sampleAttrs_insert hAscending hOrdered ?_ hFound
    intro own hOwn
    rw [Assoc.eq_of_mem_of_mem hAscending.nodup hOwn hDeclared]
    exact hLoose.conforms
  · rcases hLoose.visits with ⟨inner, found, hVisits, hNot⟩
    exact
      ⟨inner, found,
        .attr hDeclared (Assoc.find?_insert_self _ _ _) hVisits,
        hNot⟩

mutual

/- A type with a closed record type in it has a loose value. -/
theorem exists_loose_of_hasClosed :
    (ty : Ty) → ty.Ordered → hasClosed ty = true →
      ∃ value, Loose ty value
  | .record ⟨attrs, openness⟩, hOrdered, hClosed => by
      rw [Ordered] at hOrdered
      cases openness with
      | closedAttributes =>
          exact exists_loose_of_closed hOrdered.1 hOrdered.2
      | openAttributes =>
          have hInner : hasClosedAttrs attrs = true := by
            simpa [hasClosed, Openness.isOpen] using hClosed
          rcases exists_loose_of_hasClosedAttrs attrs hOrdered.2
              hInner with
            ⟨name, declared, hDeclared, value, hLoose⟩
          exact
            ⟨_, loose_insert hOrdered.1 hOrdered.2 _ hDeclared
              hLoose⟩
  | .set element, hOrdered, hClosed => by
      rw [Ordered] at hOrdered
      rw [hasClosed] at hClosed
      rcases exists_loose_of_hasClosed element hOrdered
          hClosed with
        ⟨value, hLoose⟩
      rcases hLoose.visits with ⟨inner, found, hVisits, hNot⟩
      refine
        ⟨.set [value], ?_, ?_, ⟨inner, found, .element hVisits,
          hNot⟩⟩
      · simpa [Value.Ordered, Value.OrderedElements] using
          hLoose.ordered
      · simpa [Ty.conforms] using hLoose.conforms
  | .bool, _, hClosed => by simp [hasClosed] at hClosed
  | .long, _, hClosed => by simp [hasClosed] at hClosed
  | .string, _, hClosed => by simp [hasClosed] at hClosed
  | .entity _, _, hClosed => by simp [hasClosed] at hClosed
  | .anyEntity, _, hClosed => by simp [hasClosed] at hClosed
  | .extension _, _, hClosed => by simp [hasClosed] at hClosed
  | .unknown, _, hClosed => by simp [hasClosed] at hClosed
  | .unspecified, _, hClosed => by simp [hasClosed] at hClosed

/- One of the attributes has a loose value. -/
theorem exists_loose_of_hasClosedAttrs :
    (attrs : List (String × Attribute Ty)) → OrderedAttrs attrs →
      hasClosedAttrs attrs = true →
      ∃ name declared, (name, declared) ∈ attrs ∧
        ∃ value, Loose declared.type value
  | [], _, hClosed => by simp [hasClosedAttrs] at hClosed
  | (name, ⟨type, required⟩) :: rest, hOrdered, hClosed => by
      rw [OrderedAttrs] at hOrdered
      rw [hasClosedAttrs, Bool.or_eq_true] at hClosed
      rcases hClosed with hHere | hThere
      · exact
          ⟨name, ⟨type, required⟩, List.mem_cons_self,
            exists_loose_of_hasClosed type hOrdered.1 hHere⟩
      · rcases exists_loose_of_hasClosedAttrs rest hOrdered.2
            hThere with
          ⟨other, declared, hDeclared, hLoose⟩
        exact
          ⟨other, declared, List.mem_cons_of_mem _ hDeclared,
            hLoose⟩

end

end Ty

/-
  With a closed record type below the top, strict mode
  accepts a record that is not tight throughout.
-/
theorem RecordOf.exists_accepted_loose
    {shape : RecordType}
    (hOrdered : (Ty.record shape).Ordered)
    (hClosed : shape.openBelow = false) :
    ∃ values : Assoc String Value,
      (Value.record values).Ordered ∧
        shape.Accepts .strict values ∧
        ¬ shape.TightThroughout values := by
  have hSome : Ty.hasClosedAttrs shape.attrs = true := by
    simpa [openBelow] using hClosed
  rw [Ty.Ordered] at hOrdered
  rcases Ty.exists_loose_of_hasClosedAttrs shape.attrs hOrdered.2
      hSome with
    ⟨name, declared, hDeclared, value, hValue⟩
  have hLoose :=
    Ty.loose_insert hOrdered.1 hOrdered.2 shape.openness hDeclared
      hValue
  refine ⟨_, hLoose.ordered, ⟨?_, ?_⟩, ?_⟩
  · have hConforms := hLoose.conforms
    rw [Ty.conforms] at hConforms
    exact Ty.conformsAttrs_iff.mp hConforms
  · -- The loose attribute is a declared one, as the samples are.
    intro _ _ key hKey
    rcases Assoc.mem_keys_insert hKey with rfl | hSample
    · exact Assoc.mem_keys_of_mem hDeclared
    · rw [Ty.keys_sampleAttrs] at hSample
      exact hSample
  · intro hTight
    rcases hLoose.visits with ⟨inner, found, hVisits, hNot⟩
    exact hNot (hTight inner found hVisits)

------------------------------------------------------------
-- Strict Mode
------------------------------------------------------------

/-
  In strict mode the top record of an accepted entity, and
  the context of an accepted request, are tight. If nothing
  below is closed they are tight throughout; otherwise some
  data is accepted that is not.
-/
theorem strict_mode_closes_top_records
    {allowUnknown : Bool}
    {fragments : List Fragment}
    {schema : Schema}
    (hBuilt : Schema.build allowUnknown fragments = .ok schema)
    (hOrdered : ∀ fragment ∈ fragments, fragment.Ordered) :
    (∀ entity info,
      entity.uid.type.isAction = false →
      schema.entityType? entity.uid.type = some info →
      schema.checkEntity .strict entity = [] →
        info.shape.Tight entity.attrs ∧
          (info.shape.openBelow = true →
            info.shape.TightThroughout entity.attrs)) ∧
      (∀ request info,
        schema.action? request.action = some info →
        schema.checkRequest .strict request = none →
          info.context.Tight request.context ∧
            (info.context.openBelow = true →
              info.context.TightThroughout request.context)) ∧
      (∀ type info,
        type.isAction = false →
        schema.entityType? type = some info →
        info.shape.openBelow = false →
          ∃ entity : Entity,
            entity.uid.type = type ∧
              (Value.record entity.attrs).Ordered ∧
              schema.checkEntity .strict entity = [] ∧
              ¬ info.shape.TightThroughout entity.attrs) ∧
      (∀ uid info,
        schema.action? uid = some info →
        info.principals ≠ [] →
        info.resources ≠ [] →
        info.context.openBelow = false →
          ∃ request : Request,
            request.action = uid ∧
              (Value.record request.context).Ordered ∧
              schema.checkRequest .strict request = none ∧
              ¬ info.context.TightThroughout request.context) := by
  refine ⟨?_, ?_, ?_, ?_⟩
  · intro entity info hAction hInfo hAccepted
    have hAccepts :=
      Schema.shape_accepts_of_checkEntity hAction hInfo hAccepted
    exact
      ⟨hAccepts.2 rfl,
        RecordOf.tightThroughout_of_accepts hAccepts⟩
  · intro request info hInfo hAccepted
    rcases Schema.context_accepts_of_checkRequest hInfo
        hAccepted with
      ⟨_, _, hAccepts⟩
    exact
      ⟨hAccepts.2 rfl,
        RecordOf.tightThroughout_of_accepts hAccepts⟩
  · intro type info _ hInfo hClosed
    rcases RecordOf.exists_accepted_loose
        (Schema.shape_ordered_of_build hBuilt hOrdered hInfo)
        hClosed with
      ⟨values, hValues, hAccepts, hLoose⟩
    refine ⟨⟨⟨type, ""⟩, values, []⟩, rfl, hValues, ?_, hLoose⟩
    exact
      Schema.checkEntity_eq_nil_iff.mpr
        (Or.inr ⟨info, hInfo, hAccepts, by simp⟩)
  · intro uid info hInfo hPrincipals hResources hClosed
    rcases RecordOf.exists_accepted_loose
        (Schema.context_ordered_of_build hBuilt hOrdered hInfo)
        hClosed with
      ⟨values, hValues, hAccepts, hLoose⟩
    rcases List.exists_mem_of_ne_nil _ hPrincipals with
      ⟨principal, hPrincipal⟩
    rcases List.exists_mem_of_ne_nil _ hResources with
      ⟨resource, hResource⟩
    refine
      ⟨⟨⟨principal, ""⟩, uid, ⟨resource, ""⟩, values⟩, rfl,
        hValues, ?_, hLoose⟩
    exact
      Schema.checkRequest_eq_none_iff.mpr
        ⟨info, hInfo, hPrincipal, hResource, hAccepts⟩

/-
  A document of users whose profile is a record with a name.
  More can be said of that record.
-/
def profileDocument
    (profile : List (String × Json)) : Json :=
  .obj [
    ("entityTypes", .obj [
      ("User", .obj [
        ("shape", .obj [
          ("type", .str "Record"),
          ("attributes", .obj [
            ("profile", .obj (profile ++ [
              ("type", .str "Record"),
              ("attributes", .obj [
                ("name", .obj [("type", .str "String")])])]))])])])]),
    ("actions", .obj [])]

/- The shape of users. -/
def profileShape
    (openness : Openness) : RecordType :=
  ⟨[("profile",
      ⟨.record ⟨[("name", ⟨.string, true⟩)], openness⟩, true⟩)],
    .closedAttributes⟩

/- The schema of users. -/
def profileSchema
    (openness : Openness) : Schema :=
  ⟨[(⟨"User"⟩, ⟨⟨"User"⟩, profileShape openness, []⟩)], [], []⟩

/- A user with more in the profile than a name. -/
def profiledUser : Entity :=
  ⟨⟨⟨"User"⟩, "u"⟩,
    [("profile",
      .record [("name", .string "ann"), ("shoeSize", .long 42)])],
    []⟩

/-
  Where profiles are open the user is tight throughout; where
  they are closed some accepted user is not.
-/
theorem profiles_tight_where_open :
    (∃ fragment,
      Fragment.ofJson
          (profileDocument [("additionalAttributes", .bool true)]) =
        .ok fragment ∧
      Schema.build false [fragment] =
        .ok (profileSchema .openAttributes) ∧
      (profileSchema .openAttributes).checkEntity .strict
        profiledUser = [] ∧
      (profileShape .openAttributes).TightThroughout
        profiledUser.attrs) ∧
      ∃ fragment,
        Fragment.ofJson (profileDocument []) = .ok fragment ∧
        Schema.build false [fragment] =
          .ok (profileSchema .closedAttributes) ∧
        ∃ entity : Entity,
          entity.uid.type = ⟨"User"⟩ ∧
            (profileSchema .closedAttributes).checkEntity .strict
              entity = [] ∧
            ¬ (profileShape .closedAttributes).TightThroughout
              entity.attrs := by
  have hOrdered :
      ∀ {j fragment}, Fragment.ofJson j = .ok fragment →
        ∀ other ∈ [fragment], other.Ordered := by
    intro j fragment hRead
    simpa using Fragment.ordered_of_ofJson hRead
  constructor
  · have hFragment :
        ∃ fragment,
          Fragment.ofJson
              (profileDocument
                [("additionalAttributes", .bool true)]) =
            .ok fragment ∧
          Schema.build false [fragment] =
            .ok (profileSchema .openAttributes) :=
      ⟨_, rfl, rfl⟩
    rcases hFragment with ⟨fragment, hRead, hBuilt⟩
    have hTight :=
      ((strict_mode_closes_top_records hBuilt (hOrdered hRead)).1
        profiledUser _ rfl rfl rfl).2 rfl
    exact ⟨fragment, hRead, hBuilt, rfl, hTight⟩
  · have hFragment :
        ∃ fragment,
          Fragment.ofJson (profileDocument []) = .ok fragment ∧
          Schema.build false [fragment] =
            .ok (profileSchema .closedAttributes) :=
      ⟨_, rfl, rfl⟩
    rcases hFragment with ⟨fragment, hRead, hBuilt⟩
    rcases (strict_mode_closes_top_records hBuilt
        (hOrdered hRead)).2.2.1 ⟨"User"⟩ _ rfl rfl rfl with
      ⟨entity, hType, _, hAccepted, hLoose⟩
    exact
      ⟨fragment, hRead, hBuilt, entity, hType, hAccepted, hLoose⟩

/-
  The user is accepted although profiles are closed and a
  profile has no shoe size.
-/
theorem closed_profile_not_enforced :
    ∃ fragment,
      Fragment.ofJson (profileDocument []) = .ok fragment ∧
      Schema.build false [fragment] =
        .ok (profileSchema .closedAttributes) ∧
      profiledUser.uid.type.isAction = false ∧
      (profileSchema .closedAttributes).entityType?
          profiledUser.uid.type =
        some ⟨⟨"User"⟩, profileShape .closedAttributes, []⟩ ∧
      (profileSchema .closedAttributes).checkEntity .strict
        profiledUser = [] ∧
      ∃ inner found,
        Ty.Visits (.record (profileShape .closedAttributes))
            (.record profiledUser.attrs) inner found ∧
          inner.isOpen = false ∧
          "shoeSize" ∈ found.keys ∧ "shoeSize" ∉ inner.names := by
  refine
    ⟨_, rfl, rfl, rfl, rfl, rfl,
      ⟨[("name", ⟨.string, true⟩)], .closedAttributes⟩,
      [("name", .string "ann"), ("shoeSize", .long 42)], ?_, rfl,
      by decide, by decide⟩
  exact .attr List.mem_cons_self rfl (.here _ _)

end PolicyCheck
