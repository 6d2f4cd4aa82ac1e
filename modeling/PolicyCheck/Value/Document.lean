import PolicyCheck.Extension
import PolicyCheck.Literal.Bounded
import PolicyCheck.Value.Basic

/-
  This file defines values as documents write them. An
  object with a well formed `__entity` or `__extn` member
  is an escape, which stands for an entity or an extension
  value; a malformed escape is an ordinary record. Reading
  a document and checking its escapes are separate steps,
  and the first offender in the order of the document
  decides the error of the second.

  Key definitions include:
    * `ValueDocument`
    * `ValueDocument.decode`
    * `ValueDocument.toJson`
    * `Site`
    * `ValueError`
    * `ValueDocument.toValue`
-/

namespace PolicyCheck

------------------------------------------------------------
-- Documents
------------------------------------------------------------

/-
  A value as it is written. Records bind their attributes
  in ascending order; nothing is known yet of the function
  and the argument of an extension value.
-/
inductive ValueDocument where
  | entity (uid : EntityUid)
  | extension (function : String) (argument : ValueDocument)
  | bool (value : Bool)
  | long (value : Int64)
  | string (value : String)
  | set (elements : List ValueDocument)
  | record (attrs : List (String × ValueDocument))
  | null
deriving Repr, Inhabited

namespace ValueDocument

------------------------------------------------------------
-- Escapes
------------------------------------------------------------

/- The key of an entity escape. -/
def entityKey : String :=
  "__entity"

/- The key of an extension escape. -/
def extensionKey : String :=
  "__extn"

/- The data of the only item of a list, if it was read well. -/
def single?
    {α : Type} : List (Json.Decoded α) → Option α
  | [.ok a] => some a
  | _ => none

/- The entity that an object escapes, if it escapes one. -/
def escapedEntity?
    (members : List (String × Json)) : Option EntityUid :=
  single?
    (members.filterMap fun (k, v) =>
      if k = entityKey then some (EntityUid.decode v) else none)

/- The fields of an extension escape. -/
def extensionLayout : Json.Layout :=
  ⟨["fn", "arg"], ["fn", "arg"], true⟩

/- The function and the argument of an extension escape. -/
structure Call where
  function : String
  argument : ValueDocument
deriving Repr, Inhabited

/-
  Read one field of an extension escape. The argument comes
  as it was read from the same place.
-/
def Call.setField
    (name : String)
    (j : Json)
    (argument : Json.Decoded ValueDocument)
    (call : Call) : Json.Decoded Call :=
  if name = "fn" then do
    let function ← j.asString
    .ok { call with function := function }
  else do
    let argument ← argument
    .ok { call with argument := argument }

------------------------------------------------------------
-- Reading
------------------------------------------------------------

/- An integer of the range of values. -/
def decodeLong
    (i : Int) : Json.Decoded ValueDocument :=
  if Bounded.fits i then .ok (.long (Int64.ofInt i))
  else .error (.outOfRange (.ofInt i))

mutual

/-
  A value from a document. Of the forms an object can have,
  an entity escape goes before an extension escape, and
  both before a record.
-/
def decode : Json → Json.Decoded ValueDocument
  | .null => .ok .null
  | .bool b => .ok (.bool b)
  | .num (.int i) => decodeLong i
  | .num (.float x) => .error (.wrongKind (.num (.float x)))
  | .str s => .ok (.string s)
  | .arr items => (decodeItems items).map .set
  | .obj members =>
      match escapedEntity? members with
      | some uid => .ok (.entity uid)
      | none =>
          match single? (decodeEscapes members) with
          | some call =>
              .ok (.extension call.function call.argument)
          | none => (decodeAttrs [] members).map .record

/- The elements of a set. -/
def decodeItems : List Json → Json.Decoded (List ValueDocument)
  | [] => .ok []
  | j :: rest => do
      let d ← decode j
      let ds ← decodeItems rest
      .ok (d :: ds)

/- The attributes of a record; the last one of a name wins. -/
def decodeAttrs
    (done : Assoc String ValueDocument) :
    List (String × Json) →
      Json.Decoded (List (String × ValueDocument))
  | [] => .ok done
  | (k, v) :: rest => do
      let d ← decode v
      decodeAttrs (done.insert k d) rest

/- What the members under the key of extension escapes hold. -/
def decodeEscapes :
    List (String × Json) → List (Json.Decoded Call)
  | [] => []
  | (k, v) :: rest =>
      if k = extensionKey then decodeCall v :: decodeEscapes rest
      else decodeEscapes rest

/- The function and the argument of an extension escape. -/
def decodeCall : Json → Json.Decoded Call
  | .obj members =>
      extensionLayout.assembleMembers [] default
        (fillMembers members)
  | .arr items =>
      extensionLayout.assembleItems default extensionLayout.fields
        (fillItems items)
  | j => .error (.wrongKind j)

/- The members of an extension escape as what they fill in. -/
def fillMembers :
    List (String × Json) →
      List (String × (Call → Json.Decoded Call))
  | [] => []
  | (k, v) :: rest =>
      (k, fun call => Call.setField k v (decode v) call) ::
        fillMembers rest

/- The items of an extension escape as what they fill in. -/
def fillItems :
    List Json → List (String → Call → Json.Decoded Call)
  | [] => []
  | v :: rest =>
      (fun name call => Call.setField name v (decode v) call) ::
        fillItems rest

end

------------------------------------------------------------
-- Writing
------------------------------------------------------------

mutual

/- A value as a document. -/
def toJson : ValueDocument → Json
  | .entity uid => .obj [(entityKey, uid.toJson)]
  | .extension function argument =>
      .obj [(extensionKey,
        .obj [("fn", .str function), ("arg", toJson argument)])]
  | .bool b => .bool b
  | .long i => Value.longToJson i
  | .string s => .str s
  | .set elements => .arr (toJsonItems elements)
  | .record attrs => .obj (toJsonAttrs attrs)
  | .null => .null

/- The elements of a set as documents. -/
def toJsonItems : List ValueDocument → List Json
  | [] => []
  | d :: ds => toJson d :: toJsonItems ds

/- The attributes of a record as members of an object. -/
def toJsonAttrs :
    List (String × ValueDocument) → List (String × Json)
  | [] => []
  | (k, d) :: rest => (k, toJson d) :: toJsonAttrs rest

end

end ValueDocument

------------------------------------------------------------
-- Errors
------------------------------------------------------------

/- Where a value stands. -/
inductive Site where
  | attribute (uid : EntityUid) (name : String)
  | context
deriving DecidableEq, Repr

/- A site as messages name it. -/
def Site.display : Site → String
  | .attribute uid name =>
      "in attribute `" ++ name ++ "` on `" ++ uid.display ++ "`"
  | .context => "while parsing context"

/- What can be wrong with a value that was read. -/
inductive ValueError where
  | unknownFunction (site : Site) (name : String)
  | argumentNotString (site : Site) (name : String)
  | invalidLiteral (site : Site) (name argument reason : String)
  | null (site : Site)
deriving DecidableEq, Repr

namespace ValueError

/- An error as it is reported. -/
def message : ValueError → String
  | .unknownFunction site name =>
      site.display ++ ", `" ++ name ++
        "` is not an extension constructor"
  | .argumentNotString site name =>
      site.display ++ ", the argument to extension constructor `" ++
        name ++ "` must be a string"
  | .invalidLiteral site name argument reason =>
      site.display ++ ", invalid argument `" ++ argument ++
        "` to `" ++ name ++ "`: " ++ reason
  | .null site =>
      site.display ++
        ", found a `null`; JSON `null`s are not allowed in Cedar"

/- Advice on an error. -/
def help? : ValueError → Option String
  | .unknownFunction _ _ =>
      some ("supported constructors are `ip`, `decimal`, " ++
        "`datetime` and `duration`")
  | _ => none

end ValueError

------------------------------------------------------------
-- Checking
------------------------------------------------------------

namespace ValueDocument

/-
  The kind of value that the function of an escape makes.
  The constructor of IP addresses may be called by the name
  of its type.
-/
def constructedKind?
    (function : String) : Option ExtensionKind := do
  let name := if function = "ipaddr" then "ip" else function
  let signature ← Signature.find? name
  signature.constructs

/- The value of an extension escape. -/
def extensionValue
    (site : Site)
    (function : String)
    (argument : ValueDocument) : Except ValueError Value :=
  match constructedKind? function with
  | none => .error (.unknownFunction site function)
  | some kind =>
      match argument with
      | .string text =>
          match kind.literalError? text with
          | some reason =>
              .error (.invalidLiteral site function text reason)
          | none => .ok (.extension kind text)
      | _ => .error (.argumentNotString site function)

mutual

/- The value that is written at a site. -/
def toValue
    (site : Site) : ValueDocument → Except ValueError Value
  | .entity uid => .ok (.entity uid)
  | .extension function argument =>
      extensionValue site function argument
  | .bool b => .ok (.bool b)
  | .long i => .ok (.long i)
  | .string s => .ok (.string s)
  | .set elements => (toValues site elements).map .set
  | .record attrs => (toAttrs site attrs).map .record
  | .null => .error (.null site)

/- The elements of a set. -/
def toValues
    (site : Site) :
    List ValueDocument → Except ValueError (List Value)
  | [] => .ok []
  | d :: ds => do
      let v ← toValue site d
      let vs ← toValues site ds
      .ok (v :: vs)

/- The attributes of a record. -/
def toAttrs
    (site : Site) :
    List (String × ValueDocument) →
      Except ValueError (List (String × Value))
  | [] => .ok []
  | (k, d) :: rest => do
      let v ← toValue site d
      let vs ← toAttrs site rest
      .ok ((k, v) :: vs)

end

end ValueDocument

end PolicyCheck
