import PolicyCheck.Json.Reader
import PolicyCheck.Schema.Document

/-
  This file reads the declarations of a schema from the
  tokens of a text. Each structure is read field by field,
  in the order in which the text has them.

  Key definitions include:
    * `TypeSpec.ofTokens`
    * `EntityTypeSpec.ofTokens`
    * `ActionSpec.ofTokens`
    * `NamespaceSpec.ofTokens`
    * `Fragment.ofTokens`
-/

namespace PolicyCheck

open Json.TextReader

------------------------------------------------------------
-- Specifications Of Types
------------------------------------------------------------

/- A list of names. -/
def namesOfTokens : Nat → Json.TextReader (List String) :=
  within fun _ => list string

/- Annotations. -/
def annotationsOfTokens : Nat → Json.TextReader Annotations :=
  within fun _ => table string

namespace TypeSpec

/-
  One field of a type, as what it changes in the type. A
  type and a table of types have readers of their own.
-/
def fieldOfTokens
    (element : Json.TextReader TypeSpec)
    (attributes : Json.TextReader (Assoc String TypeSpec))
    (depth : Nat)
    (name : String) : Json.TextReader (TypeSpec → TypeSpec) :=
  if name = "type" then
    string.map fun type spec => { spec with type := type }
  else if name = "element" then
    (option element).map fun element spec =>
      { spec with element := element }
  else if name = "attributes" then
    (option attributes).map fun attributes spec =>
      { spec with attributes := attributes }
  else if name = "name" then
    (option string).map fun name spec => { spec with name := name }
  else if name = "required" then
    (option bool).map fun required spec =>
      { spec with required := required }
  else if name = "additionalAttributes" then
    bool.map fun additional spec =>
      { spec with additionalAttributes := additional }
  else
    (annotationsOfTokens depth).map fun annotations spec =>
      { spec with annotations := annotations }

mutual

/- A type. -/
def ofTokens : Nat → Json.TextReader TypeSpec
  | 0 => tooDeep
  | depth + 1 =>
      layout.ofTokens
        (fieldOfTokens (ofTokens depth) (tableOfTokens depth) depth)
        default

/- A table of types. -/
def tableOfTokens : Nat → Json.TextReader (Assoc String TypeSpec)
  | 0 => tooDeep
  | depth + 1 => table (ofTokens depth)

end

end TypeSpec

------------------------------------------------------------
-- Declarations
------------------------------------------------------------

namespace EntityTypeSpec

/- One field of an entity type. -/
def fieldOfTokens
    (depth : Nat)
    (name : String) :
    Json.TextReader (EntityTypeSpec → EntityTypeSpec) :=
  if name = "memberOfTypes" then
    (namesOfTokens depth).map fun types spec =>
      { spec with memberOfTypes := types }
  else if name = "shape" then
    (option (TypeSpec.ofTokens depth)).map fun shape spec =>
      { spec with shape := shape }
  else if name = "tags" then
    (option (TypeSpec.ofTokens depth)).map fun tags spec =>
      { spec with tags := tags }
  else
    (annotationsOfTokens depth).map fun annotations spec =>
      { spec with annotations := annotations }

/- An entity type. -/
def ofTokens : Nat → Json.TextReader EntityTypeSpec :=
  within fun depth => layout.ofTokens (fieldOfTokens depth) default

end EntityTypeSpec

namespace AppliesTo

/- One field of what an action applies to. -/
def fieldOfTokens
    (depth : Nat)
    (name : String) : Json.TextReader (AppliesTo → AppliesTo) :=
  if name = "resourceTypes" then
    (namesOfTokens depth).map fun types spec =>
      { spec with resourceTypes := types }
  else if name = "principalTypes" then
    (namesOfTokens depth).map fun types spec =>
      { spec with principalTypes := types }
  else
    (option (TypeSpec.ofTokens depth)).map fun context spec =>
      { spec with context := context }

/- What an action applies to. -/
def ofTokens : Nat → Json.TextReader AppliesTo :=
  within fun depth => layout.ofTokens (fieldOfTokens depth) default

end AppliesTo

namespace ActionRef

/- One field of a reference to an action. -/
def fieldOfTokens
    (name : String) : Json.TextReader (ActionRef → ActionRef) :=
  if name = "id" then
    string.map fun id ref => { ref with id := id }
  else
    (option string).map fun type ref => { ref with type := type }

/- A reference to an action. -/
def ofTokens : Nat → Json.TextReader ActionRef :=
  within fun _ => layout.ofTokens fieldOfTokens default

end ActionRef

namespace ActionSpec

/- One field of an action. -/
def fieldOfTokens
    (depth : Nat)
    (name : String) : Json.TextReader (ActionSpec → ActionSpec) :=
  if name = "appliesTo" then
    (option (AppliesTo.ofTokens depth)).map fun appliesTo spec =>
      { spec with appliesTo := appliesTo }
  else if name = "context" then
    (option (TypeSpec.ofTokens depth)).map fun context spec =>
      { spec with context := context }
  else if name = "memberOf" then
    (option
        (within (fun depth => list (ActionRef.ofTokens depth))
          depth)).map
      fun memberOf spec => { spec with memberOf := memberOf }
  else if name = "attributes" then
    (option ((Json.document depth).map Json.collapse)).map
      fun attributes spec => { spec with attributes := attributes }
  else
    (annotationsOfTokens depth).map fun annotations spec =>
      { spec with annotations := annotations }

/- An action. -/
def ofTokens : Nat → Json.TextReader ActionSpec :=
  within fun depth => layout.ofTokens (fieldOfTokens depth) default

end ActionSpec

------------------------------------------------------------
-- Namespaces And Fragments
------------------------------------------------------------

namespace NamespaceSpec

/- One field of a namespace. -/
def fieldOfTokens
    (depth : Nat)
    (name : String) :
    Json.TextReader (NamespaceSpec → NamespaceSpec) :=
  if name = "commonTypes" then
    (within (fun depth => uniqueTable (TypeSpec.ofTokens depth))
        depth).map
      fun types spec => { spec with commonTypes := types }
  else if name = "entityTypes" then
    (within
        (fun depth => uniqueTable (EntityTypeSpec.ofTokens depth))
        depth).map
      fun types spec => { spec with entityTypes := types }
  else if name = "actions" then
    (within (fun depth => uniqueTable (ActionSpec.ofTokens depth))
        depth).map
      fun actions spec => { spec with actions := actions }
  else
    (annotationsOfTokens depth).map fun annotations spec =>
      { spec with annotations := annotations }

/- A namespace. -/
def ofTokens : Nat → Json.TextReader NamespaceSpec :=
  within fun depth => layout.ofTokens (fieldOfTokens depth) default

end NamespaceSpec

/-
  A fragment. Whether it declares a single namespace has to
  be known before.
-/
def Fragment.ofTokens
    (flat : Bool)
    (depth : Nat) : Json.TextReader Fragment :=
  if flat then
    (NamespaceSpec.ofTokens depth).map fun spec => ⟨[("", spec)]⟩
  else
    (within (fun depth => uniqueTable (NamespaceSpec.ofTokens depth))
        depth).map
      fun namespaces => ⟨namespaces⟩

end PolicyCheck
