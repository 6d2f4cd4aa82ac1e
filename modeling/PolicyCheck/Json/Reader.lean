import PolicyCheck.Json.Decode
import PolicyCheck.Json.Lexer

/-
  This file reads data from the tokens of a text, without a
  document in between: members and items are read one after
  the other into what was read before them, so a key that
  comes twice is seen twice. Every reader uses tokens up.
  Containers nest only so deep; a reader for them is given
  how many more may be opened.

  Key definitions include:
    * `Json.TextError`
    * `Json.Read`
    * `Json.TextReader`
    * `Json.TextReader.upTo`
    * `Json.TextReader.list`
    * `Json.TextReader.table`
    * `Json.TextReader.uniqueTable`
    * `Json.TextReader.skip`
    * `Json.Layout.ofTokens`
    * `Json.document`
    * `Json.ofText`
    * `Json.parse?`
-/

namespace PolicyCheck

namespace Json

------------------------------------------------------------
-- Readers
------------------------------------------------------------

/-
  What can be wrong with a text: it is none of a document
  that nests within the limits, or its data is wrong.
-/
inductive TextError where
  | malformed
  | data (error : DecodeError)
deriving Repr

/-
  What was read at the beginning of some tokens, and the
  tokens after it, of which there are fewer.
-/
structure Read
    (α : Type)
    (tokens : List Token) where
  value : α
  rest : List Token
  shorter : rest.length < tokens.length

/- A reader of data at the beginning of tokens. -/
abbrev TextReader (α : Type) :=
  (tokens : List Token) → Except TextError (Read α tokens)

/- What was read after some more tokens. -/
def Read.later
    {α : Type}
    {tokens whole : List Token}
    (found : Read α tokens)
    (hLe : tokens.length ≤ whole.length) : Read α whole :=
  ⟨found.value, found.rest, Nat.lt_of_lt_of_le found.shorter hLe⟩

/-
  The error of a token at which no data of the right kind
  begins. Of a container no more than that is known yet.
-/
def Token.unexpected : Token → TextError
  | .null => .data (.wrongKind .null)
  | .bool b => .data (.wrongKind (.bool b))
  | .num n => .data (.wrongKind (.num n))
  | .str s => .data (.wrongKind (.str s))
  | .beginArray => .data (.wrongKind (.arr []))
  | .beginObject => .data (.wrongKind (.obj []))
  | _ => .malformed

namespace TextReader

variable {α β κ σ : Type}

/- Data that is made of what is read. -/
def map
    (f : α → β)
    (read : TextReader α) : TextReader β :=
  fun tokens =>
    match read tokens with
    | .ok found => .ok ⟨f found.value, found.rest, found.shorter⟩
    | .error e => .error e

/- Data that is decoded from what is read. -/
def refine
    (read : TextReader α)
    (decode : α → Decoded β) : TextReader β :=
  fun tokens =>
    match read tokens with
    | .error e => .error e
    | .ok found =>
        match decode found.value with
        | .ok b => .ok ⟨b, found.rest, found.shorter⟩
        | .error e => .error (.data e)

/- Nothing is read, because the data would be wrong. -/
def fail
    (e : DecodeError) : TextReader α :=
  fun _ => .error (.data e)

/- Data of one token. -/
def single
    (value : Token → Except TextError α) : TextReader α
  | [] => .error .malformed
  | token :: rest =>
      match value token with
      | .ok a => .ok ⟨a, rest, Nat.lt_succ_self _⟩
      | .error e => .error e

/- No data of the right kind begins here. -/
def refuse : TextReader α :=
  single fun token => .error token.unexpected

/- No container may be opened here any more. -/
def tooDeep : TextReader α :=
  single fun token =>
    if token = .beginArray ∨ token = .beginObject then
      .error .malformed
    else
      .error token.unexpected

/- A container, in which there may be one less than around it. -/
def within
    (read : Nat → TextReader α) : Nat → TextReader α
  | 0 => tooDeep
  | depth + 1 => read depth

/- A string. -/
def string : TextReader String :=
  single fun
    | .str s => .ok s
    | token => .error token.unexpected

/- A truth value. -/
def bool : TextReader Bool :=
  single fun
    | .bool b => .ok b
    | token => .error token.unexpected

/- Data that may be absent, which `null` says. -/
def option
    (read : TextReader α) : TextReader (Option α)
  | .null :: rest => .ok ⟨none, rest, Nat.lt_succ_self _⟩
  | tokens => read.map some tokens

------------------------------------------------------------
-- Containers
------------------------------------------------------------

/- What begins with a token, or something else if that is not there. -/
def opening
    (first : Token)
    (inside otherwise : TextReader α) : TextReader α
  | [] => .error .malformed
  | token :: tokens =>
      if token = first then
        match inside tokens with
        | .ok found => .ok (found.later (Nat.le_succ _))
        | .error e => .error e
      else
        otherwise (token :: tokens)

/-
  The parts of a container after one of them, each behind a
  comma, up to the token that closes it. Every part is read
  into what was read before.
-/
def more
    (close : Token)
    (step : σ → TextReader σ)
    {whole : List Token}
    (state : σ)
    (tokens : List Token)
    (hLe : tokens.length ≤ whole.length) :
    Except TextError (Read σ whole) :=
  match tokens with
  | [] => .error .malformed
  | token :: rest =>
      if token = close then
        .ok ⟨state, rest, hLe⟩
      else if token = .comma then
        match step state rest with
        | .ok next =>
            more close step next.value next.rest
              (Nat.le_of_lt
                (Nat.lt_trans next.shorter
                  (Nat.lt_of_lt_of_le (Nat.lt_succ_self _) hLe)))
        | .error e => .error e
      else
        .error .malformed
termination_by tokens.length
decreasing_by
  exact Nat.lt_trans next.shorter (Nat.lt_succ_self _)

/- All parts of a container, up to the token that closes it. -/
def upTo
    (close : Token)
    (step : σ → TextReader σ)
    (state : σ) : TextReader σ
  | [] => .error .malformed
  | token :: rest =>
      if token = close then
        .ok ⟨state, rest, Nat.lt_succ_self _⟩
      else
        match step state (token :: rest) with
        | .ok next =>
            more close step next.value next.rest
              (Nat.le_of_lt next.shorter)
        | .error e => .error e

/- A member of an object: its key, a colon, and its value. -/
def member
    (key? : Token → Option κ)
    (step : κ → σ → TextReader σ)
    (state : σ) : TextReader σ
  | token :: .colon :: rest =>
      match key? token with
      | none => .error .malformed
      | some key =>
          match step key state rest with
          | .ok next =>
              .ok (next.later (Nat.le_add_right rest.length 2))
          | .error e => .error e
  | _ => .error .malformed

/- The items of an array, each read into those before it. -/
def items
    (step : σ → TextReader σ)
    (state : σ) : TextReader σ :=
  upTo .endArray step state

/- The key that a token is. -/
def key? : Token → Option String
  | .str key => some key
  | _ => none

/- The members of an object, each read into those before it. -/
def members
    (step : String → σ → TextReader σ)
    (state : σ) : TextReader σ :=
  upTo .endObject (member key? step) state

/- An array of data. -/
def list
    (item : TextReader α) : TextReader (List α) :=
  opening .beginArray
    ((items (fun done => item.map fun a => a :: done) []).map
      List.reverse)
    refuse

/- An object as a table, in which the last binding of a key wins. -/
def table
    (value : TextReader α) : TextReader (Assoc String α) :=
  opening .beginObject
    (members
      (fun key (done : Assoc String α) =>
        value.map fun a => done.insert key a)
      [])
    refuse

/-
  An object as a table, in which no key is bound twice. A
  second value is read before its key is found.
-/
def uniqueTable
    (value : TextReader α) : TextReader (Assoc String α) :=
  opening .beginObject
    (members
      (fun key (done : Assoc String α) =>
        value.refine fun a =>
          if done.contains key then .error (.repeatedKey key)
          else .ok (done.insert key a))
      [])
    refuse

------------------------------------------------------------
-- Ignored Values
------------------------------------------------------------

/- A token that is a value, even if it has none. -/
def ignorable : Token → Except TextError Unit
  | .null | .bool _ | .num _ | .str _ | .overflow | .unpaired => .ok ()
  | _ => .error .malformed

/- A token that is a key, even if it has no value. -/
def ignorableKey? : Token → Option Unit
  | .str _ | .unpaired => some ()
  | _ => none

/- A value that is ignored, with not more than some containers. -/
def skipWithin : Nat → TextReader Unit
  | 0 => single ignorable
  | depth + 1 =>
      opening .beginObject
        (upTo .endObject
          (member ignorableKey? fun _ _ => skipWithin depth) ())
        (opening .beginArray
          (items (fun _ => skipWithin depth) ())
          (single ignorable))

/-
  A value that is ignored. It has to be well formed, but may
  nest at will: every container has a token of its own.
-/
def skip : TextReader Unit :=
  fun tokens => skipWithin tokens.length tokens

end TextReader

------------------------------------------------------------
-- Structures
------------------------------------------------------------

namespace Layout

open TextReader

variable {α : Type}

/-
  Read the member of a key into a structure, of which some
  fields are given already. `field` reads one field.
-/
def memberOfTokens
    (layout : Layout)
    (field : String → TextReader (α → α))
    (key : String)
    (state : List String × α) : TextReader (List String × α) :=
  if layout.fields.contains key then
    if state.1.contains key then fail (.repeatedField key)
    else
      (field key).map fun set => (key :: state.1, set state.2)
  else if layout.closed then fail (.unknownField key)
  else skip.map fun _ => state

/- Read an item into the first of the fields that are left. -/
def itemOfTokens
    (field : String → TextReader (α → α)) :
    List String × α → TextReader (List String × α)
  | ([], _) => fail .surplusItem
  | (name :: left, partly) =>
      (field name).map fun set => (left, set partly)

/- A structure is complete if none of the names is missing. -/
def complete
    (partly : α) : Option String → Decoded α
  | some name => .error (.missingField name)
  | none => .ok partly

/-
  Read a structure from tokens, starting from its defaults:
  from an object, or from the array of its fields in order.
-/
def ofTokens
    (layout : Layout)
    (field : String → TextReader (α → α))
    (default : α) : TextReader α :=
  opening .beginObject
    ((members (layout.memberOfTokens field) ([], default)).refine
      fun (given, result) =>
        complete result (layout.missing? given))
    (opening .beginArray
      ((items (itemOfTokens field) (layout.fields, default)).refine
        fun (left, result) =>
          complete result
            (layout.required.find? fun name => left.contains name))
      refuse)

end Layout

------------------------------------------------------------
-- Documents
------------------------------------------------------------

/- A token that is a document without parts. -/
def leaf : Token → Except TextError Json
  | .null => .ok .null
  | .bool b => .ok (.bool b)
  | .num n => .ok (.num n)
  | .str s => .ok (.str s)
  | _ => .error .malformed

/- A document whose containers are nested at most so deep. -/
def document : Nat → TextReader Json
  | 0 => .single leaf
  | depth + 1 =>
      .opening .beginObject
        (.map (fun done => .obj done.reverse)
          (.members
            (fun key done =>
              (document depth).map fun j => (key, j) :: done)
            []))
        (.opening .beginArray
          (.map (fun done => .arr done.reverse)
            (.items
              (fun done => (document depth).map fun j => j :: done)
              []))
          (.single leaf))

/- The data of a text, if all of the text is used up. -/
def ofText
    {α : Type}
    (read : TextReader α)
    (text : String) : Except TextError α :=
  match tokens? text.toList with
  | none => .error .malformed
  | some tokens =>
      match read tokens with
      | .error e => .error e
      | .ok found =>
          if found.rest.isEmpty then .ok found.value
          else .error .malformed

/-
  The document of a text, if the text is one whose
  containers are nested at most `depth` deep.
-/
def parse?
    (depth : Nat)
    (text : String) : Option Json :=
  (ofText (document depth) text).toOption

/- The depth to which documents may nest. -/
def maxDepth : Nat :=
  127

end Json

end PolicyCheck
