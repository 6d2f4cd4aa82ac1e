import PolicyCheck.Text.Printable
import PolicyCheck.Text.Extending

/-
  This file defines how identifiers are shown inside
  messages. Quotes, backslashes and the common control
  characters get a short escape, and whatever cannot be
  shown safely is written as its code point.

  Key definitions include:
    * `EscapeStyle`
    * `escapeChar`
    * `escape`
    * `EscapeStyle.identifier`
    * `EscapeStyle.listed`
-/

namespace PolicyCheck

namespace Text

------------------------------------------------------------
-- Styles
------------------------------------------------------------

/-
  What a style of escaping decides: whether an apostrophe
  is escaped, and whether an extending character is escaped
  at every place or only at the first.
-/
structure EscapeStyle where
  apostrophe : Bool
  everyExtending : Bool
deriving DecidableEq, Repr

/-
  Identifiers: both quotes are escaped, and an extending
  character only where it would attach to the text before.
-/
def EscapeStyle.identifier : EscapeStyle :=
  ⟨true, false⟩

/- Members of a printed list: only the double quote is escaped. -/
def EscapeStyle.listed : EscapeStyle :=
  ⟨false, true⟩

------------------------------------------------------------
-- Escaping
------------------------------------------------------------

/- The code point escape of a character, in lower case hexadecimal. -/
def codePointEscape
    (c : Char) : List Char :=
  ['\\', 'u', '\x7b'] ++ Nat.toDigits 16 c.toNat ++ ['\x7d']

/-
  One character as it is shown. The flag says whether an
  extending character is escaped here.
-/
def escapeChar
    (style : EscapeStyle)
    (escapeExtending : Bool)
    (c : Char) : List Char :=
  if c = '\x00' then ['\\', '0']
  else if c = '\t' then ['\\', 't']
  else if c = '\r' then ['\\', 'r']
  else if c = '\n' then ['\\', 'n']
  else if c = '\\' then ['\\', '\\']
  else if c = '"' then ['\\', '"']
  else if c = '\'' then
    if style.apostrophe then ['\\', '\''] else ['\'']
  else if escapeExtending && isExtending c then codePointEscape c
  else if isPrintable c then [c]
  else codePointEscape c

/- All characters of a text as they are shown. -/
def escapeChars
    (style : EscapeStyle) : List Char → List Char
  | [] => []
  | c :: cs =>
      escapeChar style true c ++
        cs.flatMap (escapeChar style style.everyExtending)

/- A text as it is shown. -/
def escape
    (style : EscapeStyle)
    (s : String) : String :=
  String.ofList (escapeChars style s.toList)

/- A text as a member of a printed list, in double quotes. -/
def quote
    (s : String) : String :=
  "\"" ++ escape .listed s ++ "\""

/- A printed list of texts. -/
def quoteList
    (ss : List String) : String :=
  "[" ++ ", ".intercalate (ss.map quote) ++ "]"

end Text

end PolicyCheck
