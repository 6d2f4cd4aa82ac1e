import PolicyCheck.Ty.Order

/-
  This file defines the relations between types that
  checking rests on: whether a value of one type can be
  used where another is expected, the type of an expression
  that has one of two types, and whether values of two
  record types could be equal.

  Key definitions include:
    * `Ty.fits`
    * `Ty.unify`
    * `Ty.compatible`
    * `LubHint`
    * `Ty.recordsClash`
    * `Ty.intersect`
-/

namespace PolicyCheck

namespace Ty

------------------------------------------------------------
-- Fitting
------------------------------------------------------------

mutual

/-
  A value of the second type can be used where the first
  is expected. Nothing is refused where a type is unknown;
  attributes beyond the expected ones are tolerated.
-/
def fits : Ty → Ty → Bool
  | .unknown, _ => true
  | .unspecified, _ => true
  | _, .unknown => true
  | _, .unspecified => true
  | .bool, .bool => true
  | .long, .long => true
  | .string, .string => true
  | .entity a, .entity b => a = b
  | .entity _, .anyEntity => true
  | .anyEntity, .entity _ => true
  | .anyEntity, .anyEntity => true
  | .set a, .set b => fits a b
  | .record ⟨as, _⟩, .record b => fitsAttrs as b.attrs
  | .extension a, .extension b => a = b
  | _, _ => false

/-
  Every expected attribute is present with a type that
  fits, or absent and not required.
-/
def fitsAttrs :
    List (String × Attribute Ty) →
      List (String × Attribute Ty) → Bool
  | [], _ => true
  | (name, ⟨a, required⟩) :: as, bs =>
      (match Assoc.find? bs name with
        | some b => fits a b.type
        | none => !required) &&
        fitsAttrs as bs

end

/-
  The type of an expression that has one of two types.
  Where one of them is unknown it is the other, and where
  the second does not fit the first it is unknown.
-/
def unify
    (a b : Ty) : Ty :=
  match a, b with
  | .unknown, b => b
  | a, .unknown => a
  | a, b => if fits a b then a else .unknown

/- One of two types fits the other. -/
def compatible
    (a b : Ty) : Bool :=
  fits a b || fits b a

------------------------------------------------------------
-- Equal Records
------------------------------------------------------------

end Ty

/-
  Why values of two types cannot be equal: an attribute
  with incompatible types, an attribute of one record that
  the other cannot have, types of different categories, or
  types that do not match.
-/
inductive LubHint where
  | attributeType (name : String)
  | recordWidth (name : String)
  | category
  | mismatch
deriving DecidableEq, Repr

namespace Ty

/-
  The first attribute of a list that is not among those of
  another, unless the list belongs to an open record.
-/
def widthHint?
    (openness : Openness)
    (names others : List String) : Option LubHint :=
  if openness.isOpen then none
  else
    (names.find? fun name => !others.contains name).map
      .recordWidth

mutual

/-
  Why values of two record types cannot be equal, if they
  cannot. A shared attribute must have compatible types,
  and a closed record may not declare an attribute that the
  other lacks.
-/
def recordsClash : RecordOf Ty → RecordOf Ty → Option LubHint
  | ⟨as, a⟩, r =>
      (attrsClash a as r.attrs).or
        (widthHint? r.openness r.names (Assoc.keys as))

/- Why the attributes of the first record are in the way. -/
def attrsClash
    (openness : Openness) :
    List (String × Attribute Ty) →
      List (String × Attribute Ty) → Option LubHint
  | [], _ => none
  | (name, ⟨a, _⟩) :: as, bs =>
      match Assoc.find? bs name with
      | some b =>
          if couldEqual a b.type then attrsClash openness as bs
          else some (.attributeType name)
      | none =>
          if openness.isOpen then attrsClash openness as bs
          else some (.recordWidth name)

/- Values of two attribute types could be equal. -/
def couldEqual : Ty → Ty → Bool
  | .record a, .record b => (recordsClash a b).isNone
  | a, b => compatible a b

end

------------------------------------------------------------
-- Common Attributes
------------------------------------------------------------

/-
  What two record types have in common: the attributes
  whose types fit both ways. Such an attribute is required
  when both require it, and the result is open when either
  record is.
-/
def intersect
    (r s : RecordType) : RecordType :=
  ⟨r.attrs.filterMap fun (name, a) =>
      match s.attr? name with
      | some b =>
          if fits a.type b.type && fits b.type a.type then
            some (name, ⟨a.type, a.required && b.required⟩)
          else
            none
      | none => none,
    .ofBool (r.isOpen || s.isOpen)⟩

end Ty

end PolicyCheck
