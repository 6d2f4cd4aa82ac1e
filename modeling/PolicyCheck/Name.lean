import PolicyCheck.Json.Decode
import PolicyCheck.Text.Escape

/-
  This file defines the names of a policy world: entity
  types, which may be qualified by a namespace, the unique
  identifiers of entities, and the identifiers of policies.

  Key definitions include:
    * `EntityType`
    * `EntityType.qualify`
    * `EntityType.basename`
    * `EntityType.isAction`
    * `EntityUid`
    * `EntityUid.display`
    * `PolicyId`
    * `PolicyId.display`
-/

namespace PolicyCheck

------------------------------------------------------------
-- Entity Types
------------------------------------------------------------

/- The name of an entity type, qualified or not. -/
structure EntityType where
  name : String
deriving DecidableEq, Repr, Inhabited

namespace EntityType

instance : LT EntityType where
  lt a b := a.name < b.name

instance : DecidableLT EntityType :=
  fun a b => inferInstanceAs (Decidable (a.name < b.name))

/- A text has the separator `::` somewhere. -/
def hasSeparator : List Char → Bool
  | ':' :: ':' :: _ => true
  | _ :: cs => hasSeparator cs
  | [] => false

/-
  Cut a reversed text at its first separator: the part
  before it, put in order again, and the part after it,
  still reversed.
-/
def cutReversed
    (after : List Char) :
    List Char → Option (List Char × List Char)
  | ':' :: ':' :: cs => some (after, cs)
  | c :: cs => cutReversed (c :: after) cs
  | [] => none

/- The namespace and the base name around the last separator. -/
def split?
    (ty : EntityType) : Option (String × String) :=
  (cutReversed [] ty.name.toList.reverse).map fun (base, ns) =>
    (String.ofList ns.reverse, String.ofList base)

/- The name without its namespace. -/
def basename
    (ty : EntityType) : String :=
  match ty.split? with
  | some (_, base) => base
  | none => ty.name

/- The namespace, which is empty for a name without one. -/
def namespacePart
    (ty : EntityType) : String :=
  match ty.split? with
  | some (ns, _) => ns
  | none => ""

/-
  A name as it is meant inside a namespace. A name that has
  a separator is qualified already, and the empty namespace
  qualifies nothing.
-/
def qualify
    (ns name : String) : EntityType :=
  if ns.isEmpty || hasSeparator name.toList then ⟨name⟩
  else ⟨ns ++ "::" ++ name⟩

/- The base name of the types of actions. -/
def actionName : String :=
  "Action"

/- The type of actions outside of all namespaces. -/
def action : EntityType :=
  ⟨actionName⟩

/- A type is a type of actions in whatever namespace. -/
def isAction
    (ty : EntityType) : Bool :=
  ty.basename = actionName

/- A type from a document. -/
def decode
    (j : Json) : Json.Decoded EntityType :=
  j.asString.map EntityType.mk

/- A type as a document. -/
def toJson
    (ty : EntityType) : Json :=
  .str ty.name

end EntityType

------------------------------------------------------------
-- Entity Identifiers
------------------------------------------------------------

/- The unique identifier of an entity: its type and its own id. -/
structure EntityUid where
  type : EntityType
  id : String
deriving DecidableEq, Repr, Inhabited

namespace EntityUid

instance : LT EntityUid where
  lt a b := a.type < b.type ∨ a.type = b.type ∧ a.id < b.id

instance : DecidableLT EntityUid :=
  fun a b =>
    inferInstanceAs
      (Decidable (a.type < b.type ∨ a.type = b.type ∧ a.id < b.id))

/- An identifier as it is shown in messages. -/
def display
    (uid : EntityUid) : String :=
  uid.type.name ++ "::\"" ++ Text.escape .identifier uid.id ++ "\""

/- Fields of an identifier; other members are of no interest. -/
def layout : Json.Layout :=
  ⟨["type", "id"], ["type", "id"], false⟩

/- Read one field of an identifier. -/
def setField
    (name : String)
    (j : Json)
    (uid : EntityUid) : Json.Decoded EntityUid :=
  if name = "type" then do
    let ty ← EntityType.decode j
    .ok { uid with type := ty }
  else do
    let id ← j.asString
    .ok { uid with id := id }

/- An identifier from a document. -/
def decode
    (j : Json) : Json.Decoded EntityUid :=
  layout.decode setField default j

/- An identifier as a document. -/
def toJson
    (uid : EntityUid) : Json :=
  .obj [("type", uid.type.toJson), ("id", .str uid.id)]

end EntityUid

------------------------------------------------------------
-- Policy Identifiers
------------------------------------------------------------

/- The identifier of a policy. -/
structure PolicyId where
  id : String
deriving DecidableEq, Repr, Inhabited

/- A policy identifier as it is shown in messages. -/
def PolicyId.display
    (policy : PolicyId) : String :=
  Text.escape .identifier policy.id

end PolicyCheck
