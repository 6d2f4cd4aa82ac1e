import PolicyCheck.Proofs.Assoc
import PolicyCheck.Proofs.Ordered
import PolicyCheck.Typing.Env

/-
  What the contexts of several actions have in common. The
  intersections are taken one after the other, but all they
  do is to drop attributes of the first context: an attribute
  stays, with its type there, if every context declares it
  with a type that fits that one both ways. So only which
  context comes first can make a difference.

  Main declarations:
    * `Ty.fits_refl`
    * `sharedIn`
    * `requiredIn`
    * `keepAttr`
    * `keepAttr_eq_some_iff`
    * `Ty.foldl_intersect_eq`
    * `attr?_commonContext`
    * `LeadsAgree`
    * `commonContext_eq_iff`
-/

namespace PolicyCheck

------------------------------------------------------------
-- Types That Fit Themselves
------------------------------------------------------------

namespace Ty

/-
  Attributes fit others when each fits the one of its name,
  or is not required where there is none.
-/
theorem fitsAttrs_iff
    {as bs : List (String × Attribute Ty)} :
    fitsAttrs as bs = true ↔
      ∀ name a, (name, a) ∈ as →
        (∃ b, Assoc.find? bs name = some b ∧
          fits a.type b.type = true) ∨
          (Assoc.find? bs name = none ∧ a.required = false) := by
  induction as with
  | nil => simp [fitsAttrs]
  | cons binding rest ih =>
      rcases binding with ⟨name, type, required⟩
      have hHere :
          fitsAttrs ((name, ⟨type, required⟩) :: rest) bs = true ↔
            ((∃ b, Assoc.find? bs name = some b ∧
              fits type b.type = true) ∨
              (Assoc.find? bs name = none ∧ required = false)) ∧
              fitsAttrs rest bs = true := by
        rw [fitsAttrs, Bool.and_eq_true]
        cases Assoc.find? bs name <;> simp
      rw [hHere, ih]
      constructor
      · intro hBoth other a hMem
        rcases List.mem_cons.mp hMem with hFirst | hRest
        · rcases Prod.mk.inj hFirst with ⟨rfl, rfl⟩
          exact hBoth.1
        · exact hBoth.2 other a hRest
      · intro hAll
        constructor
        · exact hAll name ⟨type, required⟩ List.mem_cons_self
        · intro other a hMem
          exact hAll other a (List.mem_cons_of_mem _ hMem)

/- An ordered type fits itself. -/
theorem fits_refl
    (ty : Ty)
    (hOrdered : ty.Ordered) :
    fits ty ty = true := by
  induction ty using parts_induction with
  | step ty ih =>
      cases ty with
      | record r =>
          have hNames := RecordOf.names_nodup hOrdered
          rw [fits, fitsAttrs_iff]
          intro name declared hMem
          exact
            Or.inl
              ⟨declared, Assoc.find?_of_mem hNames hMem,
                ih declared.type (mem_parts_of_mem hMem)
                  (RecordOf.type_ordered_of_mem hOrdered hMem)⟩
      | set element =>
          rw [Ordered] at hOrdered
          rw [fits]
          exact ih element List.mem_cons_self hOrdered
      | _ => simp [fits]

end Ty

------------------------------------------------------------
-- Attributes In Several Records
------------------------------------------------------------

/-
  All records declare an attribute, with types that fit a
  given one both ways.
-/
def sharedIn
    (records : List RecordType)
    (name : String)
    (ty : Ty) : Bool :=
  records.all fun record =>
    (record.attr? name).any fun other =>
      Ty.fits ty other.type && Ty.fits other.type ty

/- All records declare an attribute and require it. -/
def requiredIn
    (records : List RecordType)
    (name : String) : Bool :=
  records.all fun record => (record.attr? name).any Attribute.required

/- What is left of a declaration beside records, if anything. -/
def keepAttr
    (records : List RecordType)
    (name : String)
    (declared : AttributeType) : Option AttributeType :=
  if sharedIn records name declared.type then
    some ⟨declared.type, declared.required && requiredIn records name⟩
  else
    none

section Sharing

variable
  {records others : List RecordType}
  {name : String}

/- Sharing depends on which records there are. -/
theorem sharedIn_congr
    (hSame : ∀ record, record ∈ records ↔ record ∈ others)
    (ty : Ty) :
    sharedIn records name ty = sharedIn others name ty :=
  all_eq_of_mem_iff hSame _

/- Requiring depends on which records there are. -/
theorem requiredIn_congr
    (hSame : ∀ record, record ∈ records ↔ record ∈ others) :
    requiredIn records name = requiredIn others name :=
  all_eq_of_mem_iff hSame _

/- What is shared is declared in each record. -/
theorem attr?_ne_none_of_sharedIn
    {ty : Ty}
    (hShared : sharedIn records name ty = true)
    {record : RecordType}
    (hRecord : record ∈ records) :
    record.attr? name ≠ none := by
  intro hNone
  have hHere := List.all_eq_true.mp hShared record hRecord
  simp [hNone] at hHere

/- What all records require the declaration requires too. -/
theorem required_and_requiredIn
    {record : RecordType}
    (hRecord : record ∈ records)
    {declared : AttributeType}
    (hDeclared : record.attr? name = some declared) :
    (declared.required && requiredIn records name) =
      requiredIn records name := by
  cases hAll : requiredIn records name with
  | false => exact Bool.and_false _
  | true =>
      have hHere := List.all_eq_true.mp hAll record hRecord
      simpa [hDeclared] using hHere

/- When an attribute is shared with all records. -/
theorem sharedIn_iff
    {ty : Ty} :
    sharedIn records name ty = true ↔
      ∀ record ∈ records, ∃ other,
        record.attr? name = some other ∧
          Ty.fits ty other.type = true ∧
          Ty.fits other.type ty = true := by
  simp [sharedIn, Option.any_eq_true]

/- When an attribute is required in all records. -/
theorem requiredIn_iff :
    requiredIn records name = true ↔
      ∀ record ∈ records, ∃ other,
        record.attr? name = some other ∧ other.required = true := by
  simp [requiredIn, Option.any_eq_true]

/- What is left of a declaration, and when. -/
theorem keepAttr_eq_some_iff
    {declared kept : AttributeType} :
    keepAttr records name declared = some kept ↔
      sharedIn records name declared.type = true ∧
        kept.type = declared.type ∧
        kept.required =
          (declared.required && requiredIn records name) := by
  rcases kept with ⟨type, required⟩
  unfold keepAttr
  by_cases hShared : sharedIn records name declared.type = true
  · simp [hShared, eq_comm]
  · simp [hShared]

/- A declaration is left if it is left beside each record. -/
theorem keepAttr_cons
    (record : RecordType)
    (declared : AttributeType) :
    keepAttr (record :: records) name declared =
      (keepAttr [record] name declared).bind
        (keepAttr records name) := by
  have hShared :
      sharedIn (record :: records) name declared.type =
        (sharedIn [record] name declared.type &&
          sharedIn records name declared.type) := by
    simp [sharedIn]
  have hRequired :
      requiredIn (record :: records) name =
        (requiredIn [record] name && requiredIn records name) := by
    simp [requiredIn]
  unfold keepAttr
  rw [hShared, hRequired, ← Bool.and_assoc]
  by_cases hHere : sharedIn [record] name declared.type = true
  · simp [hHere]
  · simp [hHere]

end Sharing

------------------------------------------------------------
-- The Fold Of Intersections
------------------------------------------------------------

/- The attributes of a record that are left beside others. -/
def keepAttrs
    (records : List RecordType)
    (attrs : List (String × AttributeType)) :
    List (String × AttributeType) :=
  attrs.filterMap fun binding =>
    (keepAttr records binding.1 binding.2).map fun kept =>
      (binding.1, kept)

/- Keeping beside some records, then beside others. -/
theorem keepAttrs_cons
    (record : RecordType)
    (records : List RecordType)
    (attrs : List (String × AttributeType)) :
    keepAttrs (record :: records) attrs =
      keepAttrs records (keepAttrs [record] attrs) := by
  unfold keepAttrs
  rw [List.filterMap_filterMap]
  congr 1
  funext binding
  rw [keepAttr_cons]
  cases keepAttr [record] binding.1 binding.2 with
  | none => rfl
  | some kept => rfl

/- An openness that is asked whether it is open. -/
theorem Openness.ofBool_isOpen
    (openness : Openness) :
    Openness.ofBool openness.isOpen = openness := by
  cases openness with
  | openAttributes => rfl
  | closedAttributes => rfl

/- The answer that an openness was made from. -/
theorem Openness.isOpen_ofBool
    (b : Bool) :
    (Openness.ofBool b).isOpen = b := by
  cases b with
  | false => rfl
  | true => rfl

namespace Ty

/- An intersection keeps what the second record shares. -/
theorem intersect_eq
    (r s : RecordType) :
    intersect r s =
      ⟨keepAttrs [s] r.attrs, .ofBool (r.isOpen || s.isOpen)⟩ := by
  unfold intersect keepAttrs
  congr 2
  funext binding
  cases hFound : s.attr? binding.1 with
  | none => simp [keepAttr, sharedIn, hFound]
  | some other =>
      by_cases hFits :
          (fits binding.2.type other.type &&
            fits other.type binding.2.type) = true
      · simp [keepAttr, sharedIn, requiredIn, hFound, hFits]
      · simp [keepAttr, sharedIn, hFound, hFits]

/-
  The fold keeps what all other records share. The induction
  is on those, with what is left so far in the place of the
  first record.
-/
theorem foldl_intersect_eq
    (rest : List RecordType)
    (first : RecordType) :
    rest.foldl intersect first =
      ⟨keepAttrs rest first.attrs,
        .ofBool (first.isOpen || rest.any RecordOf.isOpen)⟩ := by
  induction rest generalizing first with
  | nil =>
      have hAttrs : keepAttrs [] first.attrs = first.attrs := by
        simp [keepAttrs, keepAttr, sharedIn, requiredIn]
      simp [hAttrs, RecordOf.isOpen, Openness.ofBool_isOpen]
  | cons second rest ih =>
      have hOpen :
          (intersect first second).isOpen =
            (first.isOpen || second.isOpen) := by
        rw [intersect_eq]
        exact Openness.isOpen_ofBool _
      rw [List.foldl_cons, ih, hOpen, intersect_eq,
        keepAttrs_cons second rest, List.any_cons, Bool.or_assoc]

end Ty

------------------------------------------------------------
-- The Common Context
------------------------------------------------------------

section Kept

variable
  {records : List RecordType}
  {attrs : List (String × AttributeType)}

/- What is left of an attribute is what its declaration leaves. -/
theorem find?_keepAttrs
    (hNodup : (Assoc.keys attrs).Nodup)
    (name : String) :
    Assoc.find? (keepAttrs records attrs) name =
      (Assoc.find? attrs name).bind (keepAttr records name) := by
  induction attrs with
  | nil => rfl
  | cons binding rest ih =>
      rcases binding with ⟨other, declared⟩
      obtain ⟨hNew, hRest⟩ := List.nodup_cons.mp hNodup
      have hTail := ih hRest
      cases hKept : keepAttr records other declared with
      | none =>
          have hStep :
              keepAttrs records ((other, declared) :: rest) =
                keepAttrs records rest := by
            simp [keepAttrs, hKept]
          rw [hStep, hTail, Assoc.find?_cons]
          by_cases hName : name = other
          · have hAbsent : Assoc.find? rest other = none :=
              Assoc.find?_eq_none_iff.mpr hNew
            simp [hName, hAbsent, hKept]
          · simp [hName]
      | some kept =>
          have hStep :
              keepAttrs records ((other, declared) :: rest) =
                (other, kept) :: keepAttrs records rest := by
            simp [keepAttrs, hKept]
          rw [hStep, Assoc.find?_cons, Assoc.find?_cons]
          by_cases hName : name = other
          · simp [hName, hKept]
          · simp [hName, hTail]

/- What is left stays in order. -/
theorem ascending_keepAttrs
    (hAscending : Assoc.Ascending attrs) :
    Assoc.Ascending (keepAttrs records attrs) := by
  unfold Assoc.Ascending Assoc.keys at hAscending ⊢
  rw [List.pairwise_map] at hAscending ⊢
  unfold keepAttrs
  rw [List.pairwise_filterMap]
  apply hAscending.imp
  intro a b hLt kept hKept other hOther
  obtain ⟨_, _, rfl⟩ := Option.map_eq_some_iff.mp hKept
  obtain ⟨_, _, rfl⟩ := Option.map_eq_some_iff.mp hOther
  exact hLt

end Kept

section Common

variable
  {first : RecordType}
  {rest : List RecordType}
  {contexts others : List RecordType}

/- What a context declares is shared with the context itself. -/
theorem keepAttr_cons_of_declared
    (hOrdered : (Ty.record first).Ordered)
    {name : String}
    {declared : AttributeType}
    (hDeclared : first.attr? name = some declared) :
    keepAttr (first :: rest) name declared =
      keepAttr rest name declared := by
  have hFits : Ty.fits declared.type declared.type = true :=
    Ty.fits_refl declared.type
      (RecordOf.type_ordered_of_mem hOrdered
        (Assoc.mem_of_find? hDeclared))
  have hHere :
      keepAttr [first] name declared = some declared := by
    simp [keepAttr, sharedIn, requiredIn, hDeclared, hFits]
  rw [keepAttr_cons, hHere]
  rfl

/-
  An attribute of the common context is one of the first
  context, as far as all contexts share it.
-/
theorem attr?_commonContext
    (hOrdered : (Ty.record first).Ordered)
    (name : String) :
    (commonContext (first :: rest)).attr? name =
      (first.attr? name).bind (keepAttr (first :: rest) name) := by
  have hAscending : Assoc.Ascending first.attrs := by
    rw [Ty.Ordered] at hOrdered
    exact hOrdered.1
  have hFold :
      (commonContext (first :: rest)).attr? name =
        (first.attr? name).bind (keepAttr rest name) := by
    rw [commonContext, Ty.foldl_intersect_eq]
    exact find?_keepAttrs hAscending.nodup name
  rw [hFold]
  cases hDeclared : first.attr? name with
  | none => rfl
  | some declared =>
      exact (keepAttr_cons_of_declared hOrdered hDeclared).symm

/- The common context is open if one of the contexts is. -/
theorem openness_commonContext
    (first : RecordType)
    (rest : List RecordType) :
    (commonContext (first :: rest)).openness =
      .ofBool ((first :: rest).any RecordOf.isOpen) := by
  rw [commonContext, Ty.foldl_intersect_eq, List.any_cons]

/- The attributes of the common context are in order. -/
theorem ascending_commonContext
    (hOrdered : (Ty.record first).Ordered) :
    Assoc.Ascending (commonContext (first :: rest)).attrs := by
  rw [Ty.Ordered] at hOrdered
  rw [commonContext, Ty.foldl_intersect_eq]
  exact ascending_keepAttrs hOrdered.1

------------------------------------------------------------
-- Other Orders
------------------------------------------------------------

/-
  The first contexts of two lists agree: an attribute that
  either of them would leave in common has the same type in
  both.
-/
def LeadsAgree
    (contexts others : List RecordType) : Prop :=
  ∀ first ∈ contexts.head?, ∀ second ∈ others.head?,
    ∀ name a b,
      first.attr? name = some a → second.attr? name = some b →
        sharedIn contexts name a.type = true ∨
            sharedIn contexts name b.type = true →
          a.type = b.type

/- What is left by the first contexts of two lists that agree. -/
theorem keepAttr_eq_iff
    (hSame : ∀ context, context ∈ contexts ↔ context ∈ others)
    {first second : RecordType}
    (hFirst : first ∈ contexts)
    (hSecond : second ∈ others)
    {name : String}
    {a b : AttributeType}
    (hA : first.attr? name = some a)
    (hB : second.attr? name = some b) :
    keepAttr contexts name a = keepAttr others name b ↔
      (sharedIn contexts name a.type = true ∨
          sharedIn contexts name b.type = true →
        a.type = b.type) := by
  have hRequired := required_and_requiredIn hFirst hA
  have hRequiredToo := required_and_requiredIn hSecond hB
  unfold keepAttr
  rw [hRequired, hRequiredToo, ← sharedIn_congr hSame,
    requiredIn_congr hSame]
  by_cases hTypes : a.type = b.type
  · simp [hTypes]
  · cases sharedIn contexts name a.type with
    | true =>
        cases sharedIn contexts name b.type with
        | true => simp [hTypes]
        | false => simp [hTypes]
    | false =>
        cases sharedIn contexts name b.type with
        | true => simp [hTypes]
        | false => simp

/- A context that does not declare an attribute leaves none. -/
theorem keepAttr_eq_none
    {context : RecordType}
    (hContext : context ∈ contexts)
    {name : String}
    (hNone : context.attr? name = none)
    (declared : AttributeType) :
    keepAttr contexts name declared = none := by
  unfold keepAttr
  rw [if_neg]
  intro hShared
  exact attr?_ne_none_of_sharedIn hShared hContext hNone

/- A record type is its attributes and its openness. -/
theorem RecordOf.eq_of_parts
    {r s : RecordType}
    (hAttrs : r.attrs = s.attrs)
    (hOpenness : r.openness = s.openness) :
    r = s := by
  cases r
  cases s
  cases hAttrs
  cases hOpenness
  rfl

/-
  Two lists of the same contexts have the same in common
  exactly if they leave the same of each attribute.
-/
theorem commonContext_ext_iff
    {second : RecordType}
    {remaining : List RecordType}
    (hFirst : (Ty.record first).Ordered)
    (hSecond : (Ty.record second).Ordered)
    (hSame :
      ∀ context,
        context ∈ first :: rest ↔ context ∈ second :: remaining) :
    commonContext (first :: rest) =
        commonContext (second :: remaining) ↔
      ∀ name,
        (first.attr? name).bind (keepAttr (first :: rest) name) =
          (second.attr? name).bind
            (keepAttr (second :: remaining) name) := by
  simp only [← attr?_commonContext hFirst,
    ← attr?_commonContext hSecond]
  constructor
  · intro hEq name
    rw [hEq]
  · intro hAttrs
    have hTables :
        (commonContext (first :: rest)).attrs =
          (commonContext (second :: remaining)).attrs :=
      Assoc.ext_find? (ascending_commonContext hFirst)
        (ascending_commonContext hSecond) hAttrs
    have hOpenness :
        (commonContext (first :: rest)).openness =
          (commonContext (second :: remaining)).openness := by
      rw [openness_commonContext, openness_commonContext,
        any_eq_of_mem_iff hSame]
    exact RecordOf.eq_of_parts hTables hOpenness

/-
  Two lists of the same contexts have the same in common
  exactly if their first contexts agree.
-/
theorem commonContext_eq_iff
    (hOrdered :
      ∀ context ∈ contexts, (Ty.record context).Ordered)
    (hSame : ∀ context, context ∈ contexts ↔ context ∈ others) :
    commonContext contexts = commonContext others ↔
      LeadsAgree contexts others := by
  cases contexts with
  | nil =>
      have hNone : others = [] := by
        rw [List.eq_nil_iff_forall_not_mem]
        intro context hContext
        cases (hSame context).mpr hContext
      refine iff_of_true (by rw [hNone]) ?_
      intro first hFirst
      cases hFirst
  | cons first rest =>
      cases others with
      | nil => cases (hSame first).mp List.mem_cons_self
      | cons second remaining =>
          have hFirst : first ∈ second :: remaining :=
            (hSame first).mp List.mem_cons_self
          have hSecond : second ∈ first :: rest :=
            (hSame second).mpr List.mem_cons_self
          rw [commonContext_ext_iff
            (hOrdered first List.mem_cons_self)
            (hOrdered second hSecond) hSame]
          simp only [LeadsAgree, List.head?_cons, Option.mem_some_iff,
            forall_eq']
          refine forall_congr' fun name => ?_
          cases hA : first.attr? name with
          | none =>
              cases hB : second.attr? name with
              | none => simp
              | some b => simp [keepAttr_eq_none hFirst hA]
          | some a =>
              cases hB : second.attr? name with
              | none => simp [keepAttr_eq_none hSecond hB]
              | some b =>
                  simpa using
                    keepAttr_eq_iff hSame List.mem_cons_self
                      List.mem_cons_self hA hB

end Common

end PolicyCheck
