import PolicyCheck.Json.Basic

/-
  This file writes documents as compact text: no blanks,
  members in their order, and only those characters escaped
  that JSON does not allow in a string.

  Key definitions include:
    * `FloatFormat`
    * `Json.floatFormat`
    * `Json.render`
-/

namespace PolicyCheck

------------------------------------------------------------
-- Floats
------------------------------------------------------------

/-
  How a float is written: the exponents of its leading
  digit for which the point is placed among the digits.
  Outside of them one digit stands before the point and the
  exponent follows with its sign.
-/
structure FloatFormat where
  leastPositional : Int
  greatestPositional : Int
deriving DecidableEq, Repr

namespace FloatFormat

/- Digits written with the point after the first `places` of them. -/
def positional
    (digits : List Char)
    (places : Int) : List Char :=
  if places ≤ 0 then
    ['0', '.'] ++ List.replicate (-places).toNat '0' ++ digits
  else if (digits.length : Int) ≤ places then
    digits ++ List.replicate (places.toNat - digits.length) '0' ++
      ['.', '0']
  else
    digits.take places.toNat ++ ['.'] ++ digits.drop places.toNat

/- Digits written with one before the point, and the exponent. -/
def scientific
    (digits : List Char)
    (exponent : Int) : List Char :=
  let mantissa :=
    match digits with
    | [] => []
    | [d] => [d]
    | d :: ds => d :: '.' :: ds
  let sign := if exponent < 0 then '-' else '+'
  mantissa ++ ['e', sign] ++ Nat.toDigits 10 exponent.natAbs

/- A float as text, with the fewest digits that read back. -/
def render
    (format : FloatFormat)
    (x : Binary64) : String :=
  let sign := if x.negative then ['-'] else []
  if x.isZero then
    String.ofList (sign ++ ['0', '.', '0'])
  else
    let decimal := x.shortest
    let digits := Nat.toDigits 10 decimal.digits
    let lead := decimal.power + (digits.length : Int) - 1
    if format.leastPositional ≤ lead ∧
        lead ≤ format.greatestPositional then
      String.ofList (sign ++ positional digits (lead + 1))
    else
      String.ofList (sign ++ scientific digits lead)

end FloatFormat

namespace Json

/- Floats of a document: positional from `1e-5` to below `1e16`. -/
def floatFormat : FloatFormat :=
  ⟨-5, 15⟩

------------------------------------------------------------
-- Strings
------------------------------------------------------------

/- A hexadecimal digit in lower case. -/
def hexDigit
    (n : Nat) : Char :=
  Nat.digitChar (n % 16)

/- One character of a string. -/
def renderChar
    (c : Char) : List Char :=
  if c = '"' then ['\\', '"']
  else if c = '\\' then ['\\', '\\']
  else if c = '\x08' then ['\\', 'b']
  else if c = '\x0c' then ['\\', 'f']
  else if c = '\n' then ['\\', 'n']
  else if c = '\r' then ['\\', 'r']
  else if c = '\t' then ['\\', 't']
  else if c.toNat < 0x20 then
    ['\\', 'u', '0', '0', hexDigit (c.toNat / 16), hexDigit c.toNat]
  else [c]

/- A string in quotes. -/
def renderString
    (s : String) : String :=
  String.ofList ('"' :: s.toList.flatMap renderChar ++ ['"'])

------------------------------------------------------------
-- Documents
------------------------------------------------------------

/- A number. -/
def Number.render : Number → String
  | .int i => toString i
  | .float x => floatFormat.render x

mutual

/- A document as compact text. -/
def render : Json → String
  | .null => "null"
  | .bool true => "true"
  | .bool false => "false"
  | .num n => n.render
  | .str s => renderString s
  | .arr items => "[" ++ ",".intercalate (renderItems items) ++ "]"
  | .obj members =>
      "\x7b" ++ ",".intercalate (renderMembers members) ++ "\x7d"

/- The texts of the items of an array. -/
def renderItems : List Json → List String
  | [] => []
  | j :: rest => render j :: renderItems rest

/- The texts of the members of an object. -/
def renderMembers : List (String × Json) → List String
  | [] => []
  | (k, v) :: rest =>
      (renderString k ++ ":" ++ render v) :: renderMembers rest

end

end Json

end PolicyCheck
