import PolicyCheck.Json.Decode

/-
  This file defines the options of a validator. An options
  document only has to mention what it changes.

  Key definitions include:
    * `Mode`
    * `Options`
    * `Options.decode`
    * `Options.toJson`
-/

namespace PolicyCheck

------------------------------------------------------------
-- Modes
------------------------------------------------------------

/-
  How data is checked: undeclared attributes are tolerated
  everywhere, or refused where a record is closed.
-/
inductive Mode where
  | permissive
  | strict
deriving DecidableEq, Repr, Inhabited

namespace Mode

/- The mode refuses undeclared attributes of closed records. -/
def isStrict : Mode → Bool
  | .permissive => false
  | .strict => true

/- The strict mode or the other one. -/
def ofStrict : Bool → Mode
  | true => .strict
  | false => .permissive

/- The name of a mode. -/
def name : Mode → String
  | .permissive => "permissive"
  | .strict => "strict"

/- The mode of a name. -/
def ofName?
    (s : String) : Option Mode :=
  [Mode.permissive, .strict].find? fun mode => mode.name = s

/- A mode from a document: its name, alone or with a `null`. -/
def decode
    (j : Json) : Json.Decoded Mode :=
  let name? :=
    match j with
    | .str s => some s
    | .obj [(s, .null)] => some s
    | _ => none
  match name?.bind ofName? with
  | some mode => .ok mode
  | none => .error (.wrongKind j)

end Mode

------------------------------------------------------------
-- Options
------------------------------------------------------------

/-
  The options: the longest chain of attribute accesses that
  a policy may use, where zero sets no limit; how data is
  checked; and whether a schema may name undeclared entity
  types.
-/
structure Options where
  maxAttributeLevel : UInt32
  mode : Mode
  allowUnknownEntityTypes : Bool
deriving DecidableEq, Repr, Inhabited

namespace Options

/- The fields of an options document. -/
def layout : Json.Layout :=
  ⟨["maxAttributeLevel", "mode", "allowUnknownEntityTypes"],
    [], true⟩

/- A number of levels from a document. -/
def decodeLevel : Json → Json.Decoded UInt32
  | .num (.int i) =>
      if 0 ≤ i ∧ i < UInt32.size then .ok (UInt32.ofNat i.toNat)
      else .error (.outOfRange (.ofInt i))
  | j => .error (.wrongKind j)

/- Read one option. -/
def setField
    (name : String)
    (j : Json)
    (options : Options) : Json.Decoded Options :=
  if name = "maxAttributeLevel" then do
    let level ← decodeLevel j
    .ok { options with maxAttributeLevel := level }
  else if name = "mode" then do
    let mode ← Mode.decode j
    .ok { options with mode := mode }
  else do
    let allow ← j.asBool
    .ok { options with allowUnknownEntityTypes := allow }

/- Options from a document. -/
def decode
    (j : Json) : Json.Decoded Options :=
  layout.decode setField default j

/- Options as a document. -/
def toJson
    (options : Options) : Json :=
  .obj [
    ("maxAttributeLevel", .ofInt options.maxAttributeLevel.toNat),
    ("mode", .str options.mode.name),
    ("allowUnknownEntityTypes",
      .bool options.allowUnknownEntityTypes)]

end Options

end PolicyCheck
