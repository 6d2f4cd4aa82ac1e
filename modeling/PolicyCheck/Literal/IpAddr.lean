import PolicyCheck.Text.Digit

/-
  This file reads IP address literals: an IPv4 or IPv6
  address, optionally with the length of a network part
  after a slash. IPv4 addresses embedded in IPv6 ones can
  be read but are refused in literals.

  Key definitions include:
    * `IpAddr.Address`
    * `IpAddr.readQuad`
    * `IpAddr.readGroups`
    * `IpAddr.address?`
    * `IpAddr.parseNetwork`
    * `IpAddr.parse`
-/

namespace PolicyCheck

namespace IpAddr

------------------------------------------------------------
-- Errors
------------------------------------------------------------

/- Why a text is no IP address literal. -/
inductive Error where
  | tooLong
  | embedded
  | invalidAddress (address : String)
  | networkTooLong (bytes : Nat)
  | networkNotDigits (network : String)
  | networkLeadingZero (network : String)
  | networkOverflow (network : String)
  | networkTooLarge (network limit : Nat)
deriving DecidableEq, Repr

/- An error as it is reported for a text. -/
def Error.message
    (text : String) : Error → String
  | .tooLong =>
      "error parsing IP address from string `" ++ text ++
        "`: string length is too large"
  | .embedded =>
      "error parsing IP address from string `" ++ text ++
        "`: IPv4 embedded in IPv6 is not accepted"
  | .invalidAddress address =>
      "error parsing IP address from the string `" ++ address ++
        "`: invalid IP address syntax"
  | .networkTooLong bytes =>
      "error parsing prefix: string length " ++ toString bytes ++
        " is too large"
  | .networkNotDigits network =>
      "error parsing prefix `" ++ network ++ "`: expected digits"
  | .networkLeadingZero network =>
      "error parsing prefix `" ++ network ++ "`: leading zero(s)"
  | .networkOverflow network =>
      "error parsing prefix from the string `" ++ network ++
        "`: number too large to fit in target type"
  | .networkTooLarge network limit =>
      "error parsing prefix: " ++ toString network ++
        " is larger than the limit " ++ toString limit

------------------------------------------------------------
-- Addresses
------------------------------------------------------------

/- An address: four octets, or eight groups of sixteen bits. -/
inductive Address where
  | v4 (octets : List Nat)
  | v6 (groups : List Nat)
deriving DecidableEq, Repr

/- A part of an address and the text that follows it. -/
abbrev Read (α : Type) :=
  List Char → Option (α × List Char)

/- The value of a hexadecimal digit, in whatever case. -/
def hexDigit?
    (c : Char) : Option Nat :=
  if c.isDigit then some (c.toNat - '0'.toNat)
  else if 'a' ≤ c && c ≤ 'f' then some (c.toNat - 'a'.toNat + 10)
  else if 'A' ≤ c && c ≤ 'F' then some (c.toNat - 'A'.toNat + 10)
  else none

/-
  The value of an octet: one to three digits without a
  leading zero, at most 255.
-/
def octet?
    (digits : List Char) : Option Nat := do
  let n ← Text.decimal? digits
  if digits.isEmpty || 3 < digits.length then none
  else if digits.head? = some '0' && 1 < digits.length then none
  else if 255 < n then none
  else some n

/- An octet. -/
def readOctet : Read Nat :=
  fun cs =>
    (octet? (cs.takeWhile Char.isDigit)).map
      (·, cs.dropWhile Char.isDigit)

/- The value of a group: one to four hexadecimal digits. -/
def group?
    (digits : List Char) : Option Nat :=
  if digits.isEmpty || 4 < digits.length then none
  else
    digits.foldlM
      (fun n c => (hexDigit? c).map (16 * n + ·))
      0

/- A group. -/
def readGroup : Read Nat :=
  fun cs =>
    let isHex (c : Char) : Bool := (hexDigit? c).isSome
    (group? (cs.takeWhile isHex)).map (·, cs.dropWhile isHex)

/- A part that stands after a separator, unless it is the first. -/
def readAfter
    {α : Type}
    (separator : Char)
    (first : Bool)
    (read : Read α) : Read α :=
  fun cs =>
    if first then read cs
    else
      match cs with
      | c :: rest => if c = separator then read rest else none
      | [] => none

/- Four octets with points between them. -/
def readQuad : Read (List Nat) :=
  fun cs => do
    let (a, cs) ← readOctet cs
    let (b, cs) ← readAfter '.' false readOctet cs
    let (c, cs) ← readAfter '.' false readOctet cs
    let (d, cs) ← readAfter '.' false readOctet cs
    some ([a, b, c, d], cs)

/- Four octets as two groups. -/
def quadGroups : List Nat → List Nat
  | [a, b, c, d] => [256 * a + b, 256 * c + d]
  | _ => []

/-
  As many groups as there are, at most `left`, with colons
  between them. An IPv4 address may end them where it is
  read as two groups; the flag says whether one did.
-/
def readGroups
    (first : Bool) :
    Nat → List Char → (List Nat × Bool) × List Char
  | 0, cs => (([], false), cs)
  | left + 1, cs =>
      let embedded? :=
        if left = 0 then none
        else readAfter ':' first readQuad cs
      match embedded? with
      | some (quad, rest) => ((quadGroups quad, true), rest)
      | none =>
          match readAfter ':' first readGroup cs with
          | some (group, rest) =>
              let ((groups, embedded), rest) :=
                readGroups false left rest
              ((group :: groups, embedded), rest)
          | none => (([], false), cs)

/-
  Eight groups, or fewer around a double colon that stands
  for at least one group of zeros. No IPv4 address may
  stand before the double colon.
-/
def readV6 : Read (List Nat) :=
  fun cs =>
    let ((head, embedded), rest) := readGroups true 8 cs
    if head.length = 8 then some (head, rest)
    else if embedded then none
    else
      match rest with
      | ':' :: ':' :: rest =>
          let ((tail, _), rest) :=
            readGroups true (7 - head.length) rest
          let zeros := List.replicate (8 - head.length - tail.length) 0
          some (head ++ zeros ++ tail, rest)
      | _ => none

/- The address that a text is, if it is one from end to end. -/
def address?
    (cs : List Char) : Option Address :=
  match readQuad cs with
  | some (octets, []) => some (.v4 octets)
  | some (_, _ :: _) => none
  | none =>
      match readV6 cs with
      | some (groups, []) => some (.v6 groups)
      | _ => none

------------------------------------------------------------
-- Networks
------------------------------------------------------------

/- The greatest length of the network part of an address. -/
def Address.networkLimit : Address → Nat
  | .v4 _ => 32
  | .v6 _ => 128

/- The number of digits of the greatest length. -/
def Address.networkDigits : Address → Nat
  | .v4 _ => 2
  | .v6 _ => 3

/- The length of the network part that a text writes. -/
def parseNetwork
    (address : Address)
    (network : String) : Except Error Nat :=
  let cs := network.toList
  if address.networkDigits < network.utf8ByteSize then
    .error (.networkTooLong network.utf8ByteSize)
  else if cs.isEmpty || cs.any (fun c => !c.isDigit) then
    .error (.networkNotDigits network)
  else if cs.head? = some '0' && cs ≠ ['0'] then
    .error (.networkLeadingZero network)
  else
    match Text.decimal? cs with
    | none => .error (.networkNotDigits network)
    | some n =>
        if 255 < n then .error (.networkOverflow network)
        else if address.networkLimit < n then
          .error (.networkTooLarge n address.networkLimit)
        else .ok n

------------------------------------------------------------
-- Literals
------------------------------------------------------------

/- The greatest number of bytes of a literal. -/
def maxBytes : Nat :=
  43

/- Colons and points are mixed as in an embedded IPv4 address. -/
def looksEmbedded
    (cs : List Char) : Bool :=
  2 ≤ cs.count ':' && 2 ≤ cs.count '.'

/-
  The address of a literal and the length of its network
  part, which is the whole address if none is written.
-/
def parse
    (text : String) : Except Error (Address × Nat) :=
  let cs := text.toList
  if maxBytes < text.utf8ByteSize then .error .tooLong
  else if looksEmbedded cs then .error .embedded
  else
    let written := cs.takeWhile (· ≠ '/')
    match address? written with
    | none => .error (.invalidAddress (String.ofList written))
    | some address =>
        match cs.dropWhile (· ≠ '/') with
        | [] => .ok (address, address.networkLimit)
        | _ :: network => do
            let n ← parseNetwork address (String.ofList network)
            .ok (address, n)

end IpAddr

end PolicyCheck
