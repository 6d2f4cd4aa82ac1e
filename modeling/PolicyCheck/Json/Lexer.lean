import PolicyCheck.Json.Number

/-
  This file cuts a JSON text into tokens. The lexer is a
  machine that takes one character at a time; between
  tokens only the four blanks of JSON are skipped. A number
  that is too large and a string that is no text are tokens
  like any other, but without a value.

  Key definitions include:
    * `Token`
    * `Lexer.Mode`
    * `Lexer.step`
    * `tokens?`
-/

namespace PolicyCheck

namespace Json

------------------------------------------------------------
-- Tokens
------------------------------------------------------------

/-
  The smallest parts of a JSON text. A number beyond all
  floats is an `overflow`, and a string in which a surrogate
  has no partner is `unpaired`.
-/
inductive Token where
  | beginArray
  | endArray
  | beginObject
  | endObject
  | colon
  | comma
  | null
  | bool (value : Bool)
  | num (value : Number)
  | str (value : String)
  | overflow
  | unpaired
deriving DecidableEq, Repr

namespace Lexer

------------------------------------------------------------
-- The Machine
------------------------------------------------------------

/-
  Where the lexer stands: between tokens, or inside one
  whose characters so far are kept in reverse. In a string,
  `none` is a surrogate without partner. Inside a code unit
  escape, `high` is a leading surrogate that waits for its
  partner, and `unit` is read from `left` more hexadecimal
  digits.
-/
inductive Mode where
  | between
  | string (done : List (Option Char))
  | escape (done : List (Option Char))
  | unit
      (done : List (Option Char))
      (high : Option Nat)
      (left : Nat)
      (unit : Nat)
  | surrogate (done : List (Option Char)) (high : Nat)
  | surrogateEscape (done : List (Option Char)) (high : Nat)
  | number (done : List Char)
  | word (done : List Char)
deriving Repr

/- The tokens so far, in reverse, and the mode. -/
structure State where
  done : List Token
  mode : Mode
deriving Repr

/- A blank between tokens. -/
def isBlank
    (c : Char) : Bool :=
  c = ' ' || c = '\t' || c = '\n' || c = '\r'

/- A character that can stand in a number. -/
def inNumber
    (c : Char) : Bool :=
  c.isDigit || c = '-' || c = '+' || c = '.' || c = 'e' || c = 'E'

/- The value of a hexadecimal digit. -/
def hexDigit?
    (c : Char) : Option Nat :=
  if c.isDigit then some (c.toNat - '0'.toNat)
  else if 'a' ≤ c && c ≤ 'f' then some (c.toNat - 'a'.toNat + 10)
  else if 'A' ≤ c && c ≤ 'F' then some (c.toNat - 'A'.toNat + 10)
  else none

/- The character of a short escape. -/
def shortEscape?
    (c : Char) : Option Char :=
  if c = '"' then some '"'
  else if c = '\\' then some '\\'
  else if c = '/' then some '/'
  else if c = 'b' then some '\x08'
  else if c = 'f' then some '\x0c'
  else if c = 'n' then some '\n'
  else if c = 'r' then some '\r'
  else if c = 't' then some '\t'
  else none

/- The token of a word. -/
def word?
    (cs : List Char) : Option Token :=
  if cs = ['n', 'u', 'l', 'l'] then some .null
  else if cs = ['t', 'r', 'u', 'e'] then some (.bool true)
  else if cs = ['f', 'a', 'l', 's', 'e'] then some (.bool false)
  else none

/- The token of a number. -/
def number?
    (cs : List Char) : Option Token := do
  match (← Lexeme.ofChars? cs).number? with
  | some n => some (.num n)
  | none => some .overflow

/- The token of a string, of which every part must be a character. -/
def stringToken
    (parts : List (Option Char)) : Token :=
  match parts.mapM id with
  | some cs => .str (String.ofList cs)
  | none => .unpaired

/- One character between tokens. -/
def start
    (done : List Token)
    (c : Char) : Option State :=
  if isBlank c then some ⟨done, .between⟩
  else if c = '[' then some ⟨.beginArray :: done, .between⟩
  else if c = ']' then some ⟨.endArray :: done, .between⟩
  else if c = '\x7b' then some ⟨.beginObject :: done, .between⟩
  else if c = '\x7d' then some ⟨.endObject :: done, .between⟩
  else if c = ':' then some ⟨.colon :: done, .between⟩
  else if c = ',' then some ⟨.comma :: done, .between⟩
  else if c = '"' then some ⟨done, .string []⟩
  else if c = '-' || c.isDigit then some ⟨done, .number [c]⟩
  else if c.isLower then some ⟨done, .word [c]⟩
  else none

/-
  A complete code unit inside a string. A unit outside the
  surrogates is a character of its own; a leading surrogate
  and the trailing one after it are one character together.
  Every other surrogate has no partner.
-/
def endUnit
    (done : List (Option Char))
    (high : Option Nat)
    (unit : Nat) : Mode :=
  match high with
  | none =>
      if 0xD800 ≤ unit && unit ≤ 0xDBFF then
        .surrogate done unit
      else if 0xDC00 ≤ unit && unit ≤ 0xDFFF then
        .string (none :: done)
      else
        .string (some (Char.ofNat unit) :: done)
  | some high =>
      if 0xDC00 ≤ unit && unit ≤ 0xDFFF then
        let code := 0x10000 + (high - 0xD800) * 0x400 + (unit - 0xDC00)
        .string (some (Char.ofNat code) :: done)
      else
        .string (none :: done)

/- One character inside a string. -/
def stringStep
    (state : State)
    (parts : List (Option Char))
    (c : Char) : Option State :=
  if c = '"' then
    some ⟨stringToken parts.reverse :: state.done, .between⟩
  else if c = '\\' then
    some { state with mode := .escape parts }
  else if c.toNat < 0x20 then
    none
  else
    some { state with mode := .string (some c :: parts) }

/- One character after the backslash of an escape. -/
def escapeStep
    (state : State)
    (parts : List (Option Char))
    (c : Char) : Option State :=
  if c = 'u' then
    some { state with mode := .unit parts none 4 0 }
  else do
    let e ← shortEscape? c
    some { state with mode := .string (some e :: parts) }

/- One character of the text. -/
def step
    (state : State)
    (c : Char) : Option State :=
  match state.mode with
  | .between => start state.done c
  | .string parts => stringStep state parts c
  | .escape parts => escapeStep state parts c
  | .unit parts high left unit => do
      let d ← hexDigit? c
      let unit := 16 * unit + d
      if left ≤ 1 then
        some { state with mode := endUnit parts high unit }
      else
        some { state with mode := .unit parts high (left - 1) unit }
  | .surrogate parts high =>
      if c = '\\' then
        some { state with mode := .surrogateEscape parts high }
      else
        stringStep state (none :: parts) c
  | .surrogateEscape parts high =>
      if c = 'u' then
        some { state with mode := .unit parts (some high) 4 0 }
      else
        escapeStep state (none :: parts) c
  | .number cs =>
      if inNumber c then
        some { state with mode := .number (c :: cs) }
      else do
        let n ← number? cs.reverse
        start (n :: state.done) c
  | .word cs =>
      if c.isLower then
        some { state with mode := .word (c :: cs) }
      else do
        let w ← word? cs.reverse
        start (w :: state.done) c

/- The end of the text. -/
def finish
    (state : State) : Option (List Token) :=
  match state.mode with
  | .between => some state.done.reverse
  | .number cs => do
      let n ← number? cs.reverse
      some (n :: state.done).reverse
  | .word cs => do
      let w ← word? cs.reverse
      some (w :: state.done).reverse
  | _ => none

end Lexer

/- The tokens of a text, unless some part of it is no token. -/
def tokens?
    (cs : List Char) : Option (List Token) := do
  Lexer.finish (← cs.foldlM Lexer.step ⟨[], .between⟩)

end Json

end PolicyCheck
