import PolicyCheck.Json.Printer
import PolicyCheck.Json.Reader
import PolicyCheck.Value.Document

/-
  This file reads concrete data: lists of entities, and the
  contexts of requests. Both can come as a document or as a
  text.

  Key definitions include:
    * `DataError`
    * `EntityDocument`
    * `EntityDocument.decode`
    * `EntityDocument.ofTokens`
    * `EntityDocument.toEntity`
    * `Entity.listOfJson`
    * `Entity.listOfText`
    * `Context.ofJson`
    * `Context.ofText`
-/

namespace PolicyCheck

open Json.TextReader

------------------------------------------------------------
-- Errors
------------------------------------------------------------

/-
  Why data cannot be read: the document is malformed, one
  of its values is wrong, or a context is no record.
-/
inductive DataError where
  | malformed
  | value (error : ValueError)
  | contextNotRecord (found : Json)
deriving Repr

namespace DataError

/- An error as it is reported. -/
def message : DataError → String
  | .malformed => "malformed document"
  | .value error => error.message
  | .contextNotRecord found =>
      "expected context to be a record, but got " ++ found.render

/- Advice on an error. -/
def help? : DataError → Option String
  | .value error => error.help?
  | _ => none

end DataError

/- Data that was read, forgetting why it was not. -/
def orMalformed
    {ε α : Type} : Except ε α → Except DataError α
  | .ok a => .ok a
  | .error _ => .error .malformed

------------------------------------------------------------
-- Entities
------------------------------------------------------------

/- The name of an entity type. -/
def EntityType.ofTokens : Json.TextReader EntityType :=
  string.map EntityType.mk

namespace EntityUid

/- One field of an identifier. -/
def fieldOfTokens
    (name : String) : Json.TextReader (EntityUid → EntityUid) :=
  if name = "type" then
    EntityType.ofTokens.map fun type uid => { uid with type := type }
  else
    string.map fun id uid => { uid with id := id }

/- An identifier; of its other members no one looks at the values. -/
def ofTokens : Nat → Json.TextReader EntityUid :=
  within fun _ => layout.ofTokens fieldOfTokens default

end EntityUid

/- An entity as it is written. -/
structure EntityDocument where
  uid : EntityUid
  attrs : Assoc String ValueDocument
  parents : List EntityUid
deriving Repr, Inhabited

namespace EntityDocument

/- The fields of an entity. -/
def layout : Json.Layout :=
  ⟨["uid", "attrs", "parents"], ["uid"], true⟩

/- Read one field of an entity. -/
def setField
    (name : String)
    (j : Json)
    (entity : EntityDocument) : Json.Decoded EntityDocument :=
  if name = "uid" then do
    let uid ← EntityUid.decode j
    .ok { entity with uid := uid }
  else if name = "attrs" then do
    let attrs ← j.asUniqueMap ValueDocument.decode
    .ok { entity with attrs := attrs }
  else do
    let parents ← j.asList EntityUid.decode
    .ok { entity with parents := parents }

/- An entity from a document. -/
def decode
    (j : Json) : Json.Decoded EntityDocument :=
  layout.decode setField default j

/-
  One field of an entity. The value of an attribute is read
  as a document first, as it can be one of several things.
-/
def fieldOfTokens
    (depth : Nat)
    (name : String) :
    Json.TextReader (EntityDocument → EntityDocument) :=
  if name = "uid" then
    (EntityUid.ofTokens depth).map fun uid entity =>
      { entity with uid := uid }
  else if name = "attrs" then
    (within
        (fun depth =>
          uniqueTable
            ((Json.document depth).refine ValueDocument.decode))
        depth).map
      fun attrs entity => { entity with attrs := attrs }
  else
    (within (fun depth => list (EntityUid.ofTokens depth))
        depth).map
      fun parents entity => { entity with parents := parents }

/- An entity from the tokens of a text. -/
def ofTokens : Nat → Json.TextReader EntityDocument :=
  within fun depth => layout.ofTokens (fieldOfTokens depth) default

/-
  The values of the attributes of an entity. Each attribute
  is a site of its own.
-/
def toAttrs
    (uid : EntityUid) :
    Assoc String ValueDocument →
      Except ValueError (Assoc String Value)
  | [] => .ok []
  | (k, d) :: rest => do
      let v ← d.toValue (.attribute uid k)
      let vs ← toAttrs uid rest
      .ok ((k, v) :: vs)

/- The entity that is written. -/
def toEntity
    (entity : EntityDocument) : Except ValueError Entity := do
  let attrs ← toAttrs entity.uid entity.attrs
  .ok (Entity.ofParts entity.uid attrs entity.parents)

end EntityDocument

namespace Entity

/- The entities that are written, in their order. -/
def ofDocuments
    (documents : List EntityDocument) :
    Except DataError (List Entity) :=
  match documents.mapM EntityDocument.toEntity with
  | .ok entities => .ok entities
  | .error e => .error (.value e)

/- The entities of a document, which is read as a whole first. -/
def listOfJson
    (j : Json) : Except DataError (List Entity) := do
  let documents ← orMalformed (j.asList EntityDocument.decode)
  ofDocuments documents

/- The entities of a text, which is read as a whole first. -/
def listOfText
    (text : String) : Except DataError (List Entity) := do
  let documents ←
    orMalformed
      (Json.ofText
        (within (fun depth => list (EntityDocument.ofTokens depth))
          Json.maxDepth)
        text)
  ofDocuments documents

end Entity

------------------------------------------------------------
-- Contexts
------------------------------------------------------------

namespace Context

/- The attributes of a context that was read. -/
def ofDocument : ValueDocument → Except DataError (Assoc String Value)
  | .record attrs =>
      match ValueDocument.toAttrs .context attrs with
      | .ok values => .ok values
      | .error e => .error (.value e)
  | escape => .error (.contextNotRecord escape.toJson)

/- The context of a document, which has to be an object. -/
def ofJson : Json → Except DataError (Assoc String Value)
  | .obj members => do
      let document ← orMalformed (ValueDocument.decode (.obj members))
      ofDocument document
  | j => .error (.contextNotRecord j)

/- The context of a text; the last one of repeated keys wins. -/
def ofText
    (text : String) : Except DataError (Assoc String Value) := do
  let j ←
    orMalformed (Json.ofText (Json.document Json.maxDepth) text)
  ofJson j.collapse

end Context

end PolicyCheck
