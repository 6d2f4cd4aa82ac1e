import PolicyCheck.Data.Assoc
import PolicyCheck.Json.Basic

/-
  This file defines how typed data is read from documents.
  A structure may be written as an object, or as the array
  of its fields in order. Documents are read from left to
  right and the first thing wrong decides the error.

  Key definitions include:
    * `Json.DecodeError`
    * `Json.Decoded`
    * `Json.asString`
    * `Json.asList`
    * `Json.asMap`
    * `Json.asUniqueMap`
    * `Json.Layout`
    * `Json.Layout.assembleMembers`
    * `Json.Layout.assembleItems`
    * `Json.Layout.decode`
-/

namespace PolicyCheck

namespace Json

------------------------------------------------------------
-- Errors
------------------------------------------------------------

/- What can be wrong with a document that is decoded. -/
inductive DecodeError where
  | wrongKind (found : Json)
  | outOfRange (found : Json)
  | unknownField (name : String)
  | repeatedField (name : String)
  | repeatedKey (key : String)
  | missingField (name : String)
  | surplusItem
deriving Repr

/- The data read from a document, or what is wrong with it. -/
abbrev Decoded (α : Type) :=
  Except DecodeError α

------------------------------------------------------------
-- Plain Data
------------------------------------------------------------

/- A string. -/
def asString : Json → Decoded String
  | .str s => .ok s
  | j => .error (.wrongKind j)

/- A truth value. -/
def asBool : Json → Decoded Bool
  | .bool b => .ok b
  | j => .error (.wrongKind j)

/- Data that may be absent, which `null` says. -/
def asOption
    {α : Type}
    (decode : Json → Decoded α) : Json → Decoded (Option α)
  | .null => .ok none
  | j => (decode j).map some

/- An array of data. -/
def asList
    {α : Type}
    (decode : Json → Decoded α) : Json → Decoded (List α)
  | .arr items => items.mapM decode
  | j => .error (.wrongKind j)

/- Bind the members of an object one by one; the last one wins. -/
def bindMembers
    {α : Type}
    (decode : Json → Decoded α)
    (done : Assoc String α) :
    List (String × Json) → Decoded (Assoc String α)
  | [] => .ok done
  | (k, v) :: rest => do
      let a ← decode v
      bindMembers decode (done.insert k a) rest

/- An object as a table, in which the last binding of a key wins. -/
def asMap
    {α : Type}
    (decode : Json → Decoded α) : Json → Decoded (Assoc String α)
  | .obj members => bindMembers decode [] members
  | j => .error (.wrongKind j)

/-
  Bind the members of an object one by one. A key may not
  be bound twice; its second value is read before that is
  found.
-/
def bindUniqueMembers
    {α : Type}
    (decode : Json → Decoded α)
    (done : Assoc String α) :
    List (String × Json) → Decoded (Assoc String α)
  | [] => .ok done
  | (k, v) :: rest => do
      let a ← decode v
      if done.contains k then .error (.repeatedKey k)
      else bindUniqueMembers decode (done.insert k a) rest

/- An object as a table, in which no key is bound twice. -/
def asUniqueMap
    {α : Type}
    (decode : Json → Decoded α) : Json → Decoded (Assoc String α)
  | .obj members => bindUniqueMembers decode [] members
  | j => .error (.wrongKind j)

------------------------------------------------------------
-- Structures
------------------------------------------------------------

/-
  The fields of a structure in order, those of them that
  have no default, and whether members of other names are
  refused.
-/
structure Layout where
  fields : List String
  required : List String
  closed : Bool
deriving Repr

namespace Layout

variable {α : Type}

/- The first required field of a list that is not given. -/
def missing?
    (layout : Layout)
    (given : List String) : Option String :=
  layout.required.find? fun name => !given.contains name

/-
  Fill a structure from the members of an object. Each
  member comes with the function that reads it into the
  structure, so nothing is read before its turn.
-/
def assembleMembers
    (layout : Layout)
    (given : List String)
    (partly : α) :
    List (String × (α → Decoded α)) → Decoded α
  | [] =>
      match layout.missing? given with
      | some name => .error (.missingField name)
      | none => .ok partly
  | (name, fill) :: rest =>
      if layout.fields.contains name then
        if given.contains name then
          .error (.repeatedField name)
        else do
          let next ← fill partly
          assembleMembers layout (name :: given) next rest
      else if layout.closed then
        .error (.unknownField name)
      else
        assembleMembers layout given partly rest

/-
  Fill a structure from the items of an array, which stand
  for the fields in their order.
-/
def assembleItems
    (layout : Layout)
    (partly : α) :
    List String → List (String → α → Decoded α) → Decoded α
  | left, [] =>
      match layout.required.find? fun name => left.contains name with
      | some name => .error (.missingField name)
      | none => .ok partly
  | [], _ :: _ => .error .surplusItem
  | name :: left, fill :: rest => do
      let next ← fill name partly
      assembleItems layout next left rest

/-
  Read a structure from a document, starting from its
  defaults. `set` reads one field.
-/
def decode
    (layout : Layout)
    (set : String → Json → α → Decoded α)
    (default : α) : Json → Decoded α
  | .obj members =>
      layout.assembleMembers [] default
        (members.map fun (k, v) => (k, set k v))
  | .arr items =>
      layout.assembleItems default layout.fields
        (items.map fun v name => set name v)
  | j => .error (.wrongKind j)

end Layout

end Json

end PolicyCheck
