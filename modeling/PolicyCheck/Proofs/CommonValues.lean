import PolicyCheck.Proofs.Assoc
import PolicyCheck.Proofs.Ordered
import PolicyCheck.Validator

/-
  What the check of an equality has to do with the values
  that two types have in common. Types of different
  categories have none, so nothing is lost by refusing them.
  Two record types are refused in spite of common values
  exactly in these cases, at whatever depth:
    * a closed one declares an attribute that the other one
      lacks, though it may be absent, or the other is open;
    * both may lack an attribute that has no common values;
    * both have sets of elements that do not match, though
      the sets can be empty.

  Main declarations:
    * `Ty.hasValue`
    * `Schema.comparable_of_hasValue`
    * `Ty.recordsClash_eq_none_iff`
    * `RecordOf.KeptApart`
    * `RecordOf.keptApart_of_recordsClash`
    * `equality_accepts_common_values`
    * `visitor_extras_kept_apart`
-/

------------------------------------------------------------
-- Values Of Types
------------------------------------------------------------

namespace PolicyCheck

namespace Ty

mutual

/-
  A value is one of a type. All elements of a set count, and
  a closed record has no attributes but the declared ones.
-/
def hasValue : Ty → Value → Bool
  | .unknown, _ => true
  | .unspecified, _ => true
  | .bool, .bool _ => true
  | .long, .long _ => true
  | .string, .string _ => true
  | .entity type, .entity uid => type = uid.type
  | .anyEntity, .entity _ => true
  | .set element, .set elements =>
      elements.all fun value => hasValue element value
  | .record ⟨attrs, openness⟩, .record values =>
      hasValues attrs values &&
        (openness.isOpen ||
          (Assoc.keys values).all fun name =>
            (Assoc.keys attrs).contains name)
  | .extension kind, .extension actual _ => kind = actual
  | _, _ => false

/-
  Every declared attribute is present with a value of its
  type, or absent and optional.
-/
def hasValues :
    List (String × Attribute Ty) → List (String × Value) → Bool
  | [], _ => true
  | (name, ⟨type, required⟩) :: rest, values =>
      (match Assoc.find? values name with
        | some value => hasValue type value
        | none => !required) &&
        hasValues rest values

end

/- A declared attribute has its value, or is optional. -/
theorem declared_of_hasValues
    {attrs : List (String × Attribute Ty)}
    {values : List (String × Value)}
    (hValues : hasValues attrs values = true)
    {name : String}
    {declared : AttributeType}
    (hDeclared : (name, declared) ∈ attrs) :
    (∀ value, Assoc.find? values name = some value →
      declared.type.hasValue value = true) ∧
      (Assoc.find? values name = none →
        declared.required = false) := by
  induction attrs with
  | nil => cases hDeclared
  | cons binding rest ih =>
      rcases binding with ⟨key, type, required⟩
      rw [hasValues, Bool.and_eq_true] at hValues
      rcases List.mem_cons.mp hDeclared with hHere | hThere
      · rcases Prod.mk.inj hHere with ⟨rfl, rfl⟩
        have hFirst := hValues.1
        constructor
        · intro value hFound
          simpa [hFound] using hFirst
        · intro hAbsent
          simpa [hAbsent] using hFirst
      · exact ih hValues.2 hThere

/- The values of a record type are records with its attributes. -/
theorem exists_values_of_record
    {r : RecordType}
    {value : Value}
    (hValue : (Ty.record r).hasValue value = true) :
    ∃ values, value = .record values ∧
      hasValues r.attrs values = true := by
  cases value with
  | record values =>
      rw [hasValue, Bool.and_eq_true] at hValue
      exact ⟨values, rfl, hValue.1⟩
  | _ => simp [hasValue] at hValue

end Ty

------------------------------------------------------------
-- Categories
------------------------------------------------------------

/- The category of a value. -/
def Value.category : Value → Category
  | .bool _ => .bool
  | .long _ => .long
  | .string _ => .string
  | .entity _ => .entity
  | .set _ => .set
  | .record _ => .record
  | .extension kind _ => .extension kind

namespace Schema

variable {schema : Schema} {a b : Ty} {value : Value}

/- The category of a type is that of its values, if it is known. -/
theorem category_of_hasValue
    (schema : Schema)
    (hValue : a.hasValue value = true) :
    schema.category a = .unknown ∨
      schema.category a = value.category := by
  cases a with
  | unknown => exact Or.inl rfl
  | unspecified => exact Or.inl rfl
  | entity type =>
      cases value with
      | entity uid =>
          by_cases hKnown : schema.knowsTypeOrAction type = true
          · exact Or.inr (if_pos hKnown)
          · exact Or.inl (if_neg hKnown)
      | _ => simp [Ty.hasValue] at hValue
  | _ =>
      cases value <;>
        simp_all [Ty.hasValue, category, Value.category]

/- Types with a common value are of comparable categories. -/
theorem comparable_of_hasValue
    (hFirst : a.hasValue value = true)
    (hSecond : b.hasValue value = true) :
    (schema.category a).comparable (schema.category b) = true := by
  rcases schema.category_of_hasValue hFirst with hA | hA
  · simp [Category.comparable, hA]
  · rcases schema.category_of_hasValue hSecond with hB | hB
    · simp [Category.comparable, hB]
    · simp [Category.comparable, hA, hB]

end Schema

------------------------------------------------------------
-- Clashes
------------------------------------------------------------

namespace Ty

/- When no attribute of a record is in the way. -/
theorem attrsClash_eq_none_iff
    {openness : Openness}
    {as bs : List (String × Attribute Ty)} :
    attrsClash openness as bs = none ↔
      ∀ name a, (name, a) ∈ as →
        (∀ b, Assoc.find? bs name = some b →
          couldEqual a.type b.type = true) ∧
        (Assoc.find? bs name = none → openness.isOpen = true) := by
  induction as with
  | nil => simp [attrsClash]
  | cons binding rest ih =>
      rcases binding with ⟨name, type, required⟩
      have hFirst :
          attrsClash openness ((name, ⟨type, required⟩) :: rest) bs =
              none ↔
            ((∀ b, Assoc.find? bs name = some b →
              couldEqual type b.type = true) ∧
              (Assoc.find? bs name = none →
                openness.isOpen = true)) ∧
              attrsClash openness rest bs = none := by
        rw [attrsClash]
        cases hFound : Assoc.find? bs name with
        | none => by_cases hOpen : openness.isOpen <;> simp [hOpen]
        | some b =>
            by_cases hEqual : couldEqual type b.type <;>
              simp [hEqual]
      rw [hFirst, ih]
      constructor
      · rintro ⟨hHead, hRest⟩ other a hMem
        rcases List.mem_cons.mp hMem with hHere | hThere
        · rcases Prod.mk.inj hHere with ⟨rfl, rfl⟩
          exact hHead
        · exact hRest other a hThere
      · intro hAll
        constructor
        · exact hAll name ⟨type, required⟩ List.mem_cons_self
        · intro other a hMem
          exact hAll other a (List.mem_cons_of_mem _ hMem)

/- When the attributes of an open record, or of others, suffice. -/
theorem widthHint?_eq_none_iff
    {openness : Openness}
    {names others : List String} :
    widthHint? openness names others = none ↔
      (openness.isOpen = false → ∀ name ∈ names, name ∈ others) := by
  unfold widthHint?
  cases openness.isOpen with
  | true => simp
  | false => simp

/-
  Values of two record types could be equal if those of all
  shared attributes could, and closed records share all
  attributes they have.
-/
theorem recordsClash_eq_none_iff
    {r s : RecordType} :
    recordsClash r s = none ↔
      (∀ name a, (name, a) ∈ r.attrs →
        (∀ b, s.attr? name = some b →
          couldEqual a.type b.type = true) ∧
        (s.attr? name = none → r.isOpen = true)) ∧
      (s.isOpen = false → ∀ name ∈ s.names, name ∈ r.names) := by
  rcases r with ⟨attrs, openness⟩
  rw [recordsClash, Option.or_eq_none_iff, attrsClash_eq_none_iff,
    widthHint?_eq_none_iff]
  rfl

/- Sets could be equal if their elements match. -/
theorem couldEqual_set
    (x y : Ty) :
    couldEqual (.set x) (.set y) = compatible x y := by
  simp [couldEqual, compatible, fits]

/-
  Where two types have a common value, only sets and records
  can be taken for different.
-/
theorem couldEqual_of_hasValue
    {a b : Ty}
    {value : Value}
    (hFirst : a.hasValue value = true)
    (hSecond : b.hasValue value = true) :
    couldEqual a b = true ∨
      (∃ x y, a = .set x ∧ b = .set y) ∨
      ∃ r s, a = .record r ∧ b = .record s := by
  cases value
  all_goals
    cases a <;> simp [hasValue] at hFirst <;>
    cases b <;>
      simp_all [hasValue, couldEqual, compatible, fits]

end Ty

------------------------------------------------------------
-- Records That Are Kept Apart
------------------------------------------------------------

namespace RecordOf

/- Two record types both declare an attribute. -/
structure Shares
    (r s : RecordType)
    (name : String)
    (a b : AttributeType) : Prop where
  first : (name, a) ∈ r.attrs
  second : s.attr? name = some b

/-
  Two record types are taken for different on grounds that
  do not rule out a common value: what a closed record
  declares may be absent or allowed by the other one, what
  is optional in both may be absent, and sets may be empty.
-/
inductive KeptApart : RecordType → RecordType → Prop where
  | closedFirst
      {r s : RecordType}
      {name : String}
      (hClosed : r.isOpen = false)
      (hDeclared : name ∈ r.names)
      (hLacking : s.attr? name = none) :
      KeptApart r s
  | closedSecond
      {r s : RecordType}
      {name : String}
      (hClosed : s.isOpen = false)
      (hDeclared : name ∈ s.names)
      (hLacking : r.attr? name = none) :
      KeptApart r s
  | optional
      {r s : RecordType}
      {name : String}
      {a b : AttributeType}
      (hShares : r.Shares s name a b)
      (hFirst : a.required = false)
      (hSecond : b.required = false)
      (hApart : Ty.couldEqual a.type b.type = false) :
      KeptApart r s
  | elements
      {r s : RecordType}
      {name : String}
      {a b : AttributeType}
      {x y : Ty}
      (hShares : r.Shares s name a b)
      (hFirst : a.type = .set x)
      (hSecond : b.type = .set y)
      (hApart : Ty.compatible x y = false) :
      KeptApart r s
  | nested
      {r s : RecordType}
      {name : String}
      {a b : AttributeType}
      {t u : RecordType}
      (hShares : r.Shares s name a b)
      (hFirst : a.type = .record t)
      (hSecond : b.type = .record u)
      (hApart : KeptApart t u) :
      KeptApart r s

/- Record types that are kept apart clash. -/
theorem KeptApart.recordsClash_ne_none
    {r s : RecordType}
    (hApart : r.KeptApart s) :
    Ty.recordsClash r s ≠ none := by
  rw [ne_eq, Ty.recordsClash_eq_none_iff]
  rintro ⟨hAttrs, hWidth⟩
  induction hApart with
  | closedFirst hClosed hDeclared hLacking =>
      obtain ⟨⟨name, a⟩, hMem, rfl⟩ := List.mem_map.mp hDeclared
      rw [(hAttrs name a hMem).2 hLacking] at hClosed
      cases hClosed
  | closedSecond hClosed hDeclared hLacking =>
      exact Assoc.find?_eq_none_iff.mp hLacking
        (hWidth hClosed _ hDeclared)
  | optional hShares _ _ hApart =>
      rw [(hAttrs _ _ hShares.first).1 _ hShares.second] at hApart
      cases hApart
  | elements hShares hFirst hSecond hApart =>
      have hEqual := (hAttrs _ _ hShares.first).1 _ hShares.second
      rw [hFirst, hSecond, Ty.couldEqual_set, hApart] at hEqual
      cases hEqual
  | nested hShares hFirst hSecond _ ih =>
      have hEqual := (hAttrs _ _ hShares.first).1 _ hShares.second
      rw [hFirst, hSecond, Ty.couldEqual, Option.isNone_iff_eq_none,
        Ty.recordsClash_eq_none_iff] at hEqual
      exact ih hEqual.1 hEqual.2

/-
  What holds of a record type if it holds of those that its
  attributes have holds of all record types.
-/
@[elab_as_elim]
theorem nested_induction
    {P : RecordType → Prop}
    (r : RecordType)
    (step :
      ∀ r : RecordType,
        (∀ name (a : AttributeType) t, (name, a) ∈ r.attrs →
          a.type = .record t → P t) →
          P r) :
    P r := by
  have hAll : ∀ ty r, ty = Ty.record r → P r := by
    intro ty
    induction ty using Ty.parts_induction with
    | step ty ih =>
        rintro r rfl
        apply step r
        intro name a t hMem hType
        exact ih a.type (Ty.mem_parts_of_mem hMem) t hType
  exact hAll (.record r) r rfl

/-
  An attribute that both declare, and that is in the way,
  keeps record types with a common value apart, if it does
  so where both have a record there.
-/
theorem keptApart_of_shares
    {r s : RecordType}
    {name : String}
    {a b : AttributeType}
    {values : List (String × Value)}
    (hShares : r.Shares s name a b)
    (hFirst : Ty.hasValues r.attrs values = true)
    (hSecond : Ty.hasValues s.attrs values = true)
    (hApart : Ty.couldEqual a.type b.type = false)
    (hNested :
      ∀ t u value, a.type = .record t → b.type = .record u →
        (Ty.record t).hasValue value = true →
        (Ty.record u).hasValue value = true →
        Ty.recordsClash t u ≠ none → t.KeptApart u) :
    r.KeptApart s := by
  obtain ⟨hValueA, hAbsentA⟩ :=
    Ty.declared_of_hasValues hFirst hShares.first
  obtain ⟨hValueB, hAbsentB⟩ :=
    Ty.declared_of_hasValues hSecond
      (Assoc.mem_of_find? hShares.second)
  cases hFound : Assoc.find? values name with
  | none =>
      exact .optional hShares (hAbsentA hFound) (hAbsentB hFound)
        hApart
  | some value =>
      have hA := hValueA value hFound
      have hB := hValueB value hFound
      rcases Ty.couldEqual_of_hasValue hA hB with
        hEqual | ⟨x, y, hX, hY⟩ | ⟨t, u, hT, hU⟩
      · rw [hEqual] at hApart
        cases hApart
      · rw [hX, hY, Ty.couldEqual_set] at hApart
        exact .elements hShares hX hY hApart
      · have hClash : Ty.recordsClash t u ≠ none := by
          rw [hT, hU, Ty.couldEqual] at hApart
          intro hNone
          rw [hNone] at hApart
          cases hApart
        rw [hT] at hA
        rw [hU] at hB
        exact .nested hShares hT hU
          (hNested t u value hT hU hA hB hClash)

/-
  Record types with a common value clash only if they are
  kept apart. The induction goes into attributes that are
  records in both; the common value has common values there.
-/
theorem keptApart_of_recordsClash
    (r s : RecordType)
    {value : Value}
    (hFirst : (Ty.record r).hasValue value = true)
    (hSecond : (Ty.record s).hasValue value = true)
    (hClash : Ty.recordsClash r s ≠ none) :
    r.KeptApart s := by
  induction r using nested_induction generalizing s value with
  | step r ih =>
      obtain ⟨values, rfl, hValuesR⟩ :=
        Ty.exists_values_of_record hFirst
      obtain ⟨_, ⟨⟩, hValuesS⟩ :=
        Ty.exists_values_of_record hSecond
      apply Classical.byContradiction
      intro hTogether
      apply hClash
      rw [Ty.recordsClash_eq_none_iff]
      refine ⟨?_, ?_⟩
      · intro name a hDeclared
        refine ⟨?_, ?_⟩
        · intro b hFound
          rw [← Bool.not_eq_false]
          intro hApart
          apply hTogether
          apply keptApart_of_shares ⟨hDeclared, hFound⟩ hValuesR
            hValuesS hApart
          intro t u value hT _ hInT hInU hInner
          exact ih name a t hDeclared hT u hInT hInU hInner
        · intro hLacking
          rw [← Bool.not_eq_false]
          intro hClosed
          exact hTogether
            (.closedFirst hClosed (Assoc.mem_keys_of_mem hDeclared)
              hLacking)
      · intro hClosed name hName
        apply Classical.byContradiction
        intro hLacking
        exact hTogether
          (.closedSecond hClosed hName
            (Assoc.find?_eq_none_iff.mpr hLacking))

end RecordOf

------------------------------------------------------------
-- Equalities
------------------------------------------------------------

/-
  An equality is accepted between comparable types that are
  not two records which clash.
-/
theorem Schema.equalityIssues_eq_nil_iff
    {schema : Schema}
    {a b : Ty} :
    schema.equalityIssues a b = [] ↔
      (schema.category a).comparable (schema.category b) = true ∧
        ∀ r s, a = .record r → b = .record s →
          Ty.recordsClash r s = none := by
  unfold equalityIssues
  by_cases hComparable :
      (schema.category a).comparable (schema.category b) = true
  · simp only [hComparable, Bool.not_true, Bool.false_eq_true,
      if_false, true_and]
    split
    · rename_i r s
      cases hClash : Ty.recordsClash r s with
      | none => simp [hClash]
      | some hint => simp [hClash]
    · rename_i hOther
      refine iff_of_true rfl ?_
      intro r s hA hB
      exact (hOther r s hA hB).elim
  · simp [hComparable]

/-
  Where two types have a common value, the check accepts an
  equality between them exactly if they are not two record
  types that are kept apart.
-/
theorem equality_accepts_common_values
    (schema : Schema)
    {a b : Ty}
    {value : Value}
    (hFirst : a.hasValue value = true)
    (hSecond : b.hasValue value = true) :
    schema.equalityIssues a b = [] ↔
      ¬ ∃ r s, a = .record r ∧ b = .record s ∧ r.KeptApart s := by
  have hComparable :
      (schema.category a).comparable (schema.category b) = true :=
    Schema.comparable_of_hasValue hFirst hSecond
  rw [Schema.equalityIssues_eq_nil_iff]
  constructor
  · rintro ⟨_, hTogether⟩ ⟨r, s, hA, hB, hApart⟩
    exact hApart.recordsClash_ne_none (hTogether r s hA hB)
  · intro hTogether
    refine ⟨hComparable, ?_⟩
    rintro r s rfl rfl
    apply Classical.byContradiction
    intro hClash
    exact hTogether
      ⟨r, s, rfl, rfl,
        RecordOf.keptApart_of_recordsClash r s hFirst hSecond hClash⟩

/- A record with a number, and perhaps with more. -/
def numbered : RecordType :=
  ⟨[("number", ⟨.long, true⟩)], .openAttributes⟩

/- A record with words, and perhaps with more. -/
def worded : RecordType :=
  ⟨[("words", ⟨.set .string, true⟩)], .openAttributes⟩

/- A record with a number and words. -/
def numberedWords : Value :=
  .record [("number", .long 7), ("words", .set [.string "seven"])]

/-
  Open records may have what the other one declares, so two
  that share nothing can be equal, and are accepted.
-/
theorem numberedWords_accepted :
    (Ty.record numbered).hasValue numberedWords = true ∧
      (Ty.record worded).hasValue numberedWords = true ∧
      Schema.empty.equalityIssues (.record numbered)
        (.record worded) = [] := by
  have hFirst :
      (Ty.record numbered).hasValue numberedWords = true := by
    decide
  have hSecond :
      (Ty.record worded).hasValue numberedWords = true := by
    decide
  refine ⟨hFirst, hSecond, ?_⟩
  rw [equality_accepts_common_values Schema.empty hFirst hSecond]
  rintro ⟨_, _, ⟨⟩, ⟨⟩, hApart⟩
  have hUnshared : ∀ name a b, ¬ numbered.Shares worded name a b := by
    rintro name a b ⟨hNumber, hWords⟩
    simp [numbered] at hNumber
    simp [hNumber.1, worded, RecordOf.attr?, Assoc.find?_cons]
      at hWords
  cases hApart with
  | closedFirst hClosed => cases hClosed
  | closedSecond hClosed => cases hClosed
  | optional hShares => exact hUnshared _ _ _ hShares
  | elements hShares => exact hUnshared _ _ _ hShares
  | nested hShares => exact hUnshared _ _ _ hShares

/- Visitors with a record of whatever is known of them. -/
def visitorDocument : Json :=
  .obj [("entityTypes", .obj [
      ("Room", .obj []),
      ("Visitor", .obj [("shape", .obj [
        ("type", .str "Record"),
        ("attributes", .obj [("extras", .obj [
          ("type", .str "Record"),
          ("attributes", .obj []),
          ("additionalAttributes", .bool true)])])])])]),
    ("actions", .obj [("enter", .obj [("appliesTo", .obj [
      ("principalTypes", .arr [.str "Visitor"]),
      ("resourceTypes", .arr [.str "Room"])])])])]

/- The schema of visitors and rooms. -/
def visitorSchema : Schema :=
  ⟨[(⟨"Room"⟩, ⟨⟨"Room"⟩, .anything, []⟩),
      (⟨"Visitor"⟩, ⟨⟨"Visitor"⟩,
        ⟨[("extras", ⟨.record .anything, true⟩)],
          .closedAttributes⟩, []⟩)],
    [(⟨⟨"Action"⟩, "enter"⟩,
      ⟨⟨⟨"Action"⟩, "enter"⟩, [⟨"Visitor"⟩], [⟨"Room"⟩],
        .anything, []⟩)],
    []⟩

/- Those may enter of whom nothing but a badge is known. -/
def visitorPolicy : Policy :=
  ⟨⟨"badge"⟩, .permit, .any, .any, .any,
    [⟨.when, .binary .eq (.getAttr (.var .principal) "extras")
      (.record [("badge", .lit (.long 1))])⟩]⟩

/-
  The extras of a visitor may well be a record with a badge
  and nothing else. Yet the two are kept apart, because the
  record with the badge is closed.
-/
theorem visitor_extras_kept_apart :
    ∃ fragment,
      Fragment.ofJson visitorDocument = .ok fragment ∧
      Schema.build false [fragment] = .ok visitorSchema ∧
      (Ty.record .anything).hasValue
          (.record [("badge", .long 1)]) = true ∧
      (Ty.closedRecord [("badge", .long)]).hasValue
          (.record [("badge", .long 1)]) = true ∧
      visitorSchema.equalityIssues (.record .anything)
          (Ty.closedRecord [("badge", .long)]) ≠ [] ∧
      (Validator.mk visitorSchema default).validatePolicies
          Guard.never [visitorPolicy] =
        [⟨⟨"badge"⟩,
          Operand.incompatible (.record .anything)
            (Ty.closedRecord [("badge", .long)])
            (.recordWidth "badge") .equality⟩] := by
  refine ⟨_, rfl, rfl, by decide, by decide, by decide, ?_⟩
  decide +kernel

end PolicyCheck
