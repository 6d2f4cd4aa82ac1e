import PolicyCheck.Data.Distinct
import PolicyCheck.Ty.Printer

/-
  This file defines concrete data: the values of attributes,
  entities with their attributes and direct parents, and
  requests. Extension values keep the text they were made
  from.

  Key definitions include:
    * `Value`
    * `Value.infer`
    * `Entity`
    * `Request`
-/

namespace PolicyCheck

------------------------------------------------------------
-- Values
------------------------------------------------------------

/-
  A concrete value. Sets may mix kinds and repeat elements;
  records bind their attributes in ascending order.
-/
inductive Value where
  | bool (value : Bool)
  | long (value : Int64)
  | string (value : String)
  | entity (uid : EntityUid)
  | set (elements : List Value)
  | record (attrs : List (String × Value))
  | extension (kind : ExtensionKind) (text : String)
deriving Repr, Inhabited

namespace Value

mutual

/-
  The type of a value. A set has the type of its first
  element, and a record requires every attribute it has.
-/
def infer : Value → Ty
  | .bool _ => .bool
  | .long _ => .long
  | .string _ => .string
  | .entity uid => .entity uid.type
  | .set [] => .set .unknown
  | .set (first :: _) => .set (infer first)
  | .record attrs => .record ⟨inferAttrs attrs, .closedAttributes⟩
  | .extension kind _ => .extension kind

/- The types of the attributes of a record. -/
def inferAttrs :
    List (String × Value) → List (String × Attribute Ty)
  | [] => []
  | (name, value) :: rest =>
      (name, ⟨infer value, true⟩) :: inferAttrs rest

end

/- An integer as a document. -/
def longToJson
    (value : Int64) : Json :=
  .ofInt value.toInt

end Value

------------------------------------------------------------
-- Entities And Requests
------------------------------------------------------------

/-
  An entity: its identifier, its attributes in ascending
  order, and its direct parents in ascending order.
-/
structure Entity where
  uid : EntityUid
  attrs : Assoc String Value
  parents : List EntityUid
deriving Repr

/- An entity from attributes in ascending order and any parents. -/
def Entity.ofParts
    (uid : EntityUid)
    (attrs : Assoc String Value)
    (parents : List EntityUid) : Entity :=
  ⟨uid, attrs, ascending parents⟩

/- A request: who does what to what, and under which circumstances. -/
structure Request where
  principal : EntityUid
  action : EntityUid
  resource : EntityUid
  context : Assoc String Value
deriving Repr

end PolicyCheck
