import PolicyCheck.Schema.Error
import PolicyCheck.Schema.Text
import PolicyCheck.Text.Blank

/-
  This file reads fragments of a schema from documents and
  from texts. A text is read twice: as a document, which
  tells what it declares, and then straight into a fragment.
  Advice is only given on texts.

  Key definitions include:
    * `Json.DecodeError.mentionsUnknownField`
    * `SchemaAdvice.onText`
    * `Fragment.ofJson`
    * `Fragment.ofText`
-/

namespace PolicyCheck

------------------------------------------------------------
-- Advice
------------------------------------------------------------

/- One list of characters stands somewhere in another. -/
def occursIn
    (part : List Char) : List Char → Bool
  | [] => part.isEmpty
  | c :: cs => part.isPrefixOf (c :: cs) || occursIn part cs

/-
  The report of an error speaks of an unknown field: there
  is one, or a string that stands in a wrong place and is
  quoted there says so itself.
-/
def Json.DecodeError.mentionsUnknownField : Json.DecodeError → Bool
  | .unknownField _ => true
  | .wrongKind (.str s) => occursIn "unknown field".toList s.toList
  | _ => false

/- The report of an error in a text speaks of an unknown field. -/
def Json.TextError.mentionsUnknownField : Json.TextError → Bool
  | .malformed => false
  | .data e => e.mentionsUnknownField

/-
  Advice on a text that cannot be read: because of an error
  in its data if there is one, and because of its syntax
  otherwise.
-/
def SchemaAdvice.onText
    (text : String)
    (error : Json.TextError) : Option SchemaAdvice :=
  match Text.trimStart text.toList with
  | [] => none
  | '\x7b' :: _ =>
      if error.mentionsUnknownField then some .namespaceShape
      else none
  | _ :: _ => some .notJson

------------------------------------------------------------
-- Fragments
------------------------------------------------------------

namespace Fragment

/- The fragment of a document. -/
def ofJson : Json → Except SchemaError Fragment
  | .null => .error .missing
  | j =>
      match decode j with
      | .ok fragment => .ok fragment
      | .error _ => .error (.malformed none)

/- The fragment of a text. -/
def ofText
    (text : String) : Except SchemaError Fragment :=
  if (Text.trimStart text.toList).isEmpty then .error .missing
  else
    match Json.ofText (Json.document Json.maxDepth) text with
    | .error e => .error (.malformed (SchemaAdvice.onText text e))
    | .ok .null => .error .missing
    | .ok j =>
        -- Read again, so that keys that come twice are found.
        match
          Json.ofText (ofTokens (isFlat j.collapse) Json.maxDepth)
            text with
        | .ok fragment => .ok fragment
        | .error e =>
            .error (.malformed (SchemaAdvice.onText text e))

end Fragment

end PolicyCheck
