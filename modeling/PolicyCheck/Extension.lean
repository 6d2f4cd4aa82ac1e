import PolicyCheck.Literal.Datetime
import PolicyCheck.Literal.Decimal
import PolicyCheck.Literal.Duration
import PolicyCheck.Literal.IpAddr
import PolicyCheck.Ty.Basic

/-
  This file lists the extension functions with their types,
  and says which literals their constructors accept. A
  function called on a receiver counts it as its first
  argument.

  Key definitions include:
    * `ExtensionKind.literalError?`
    * `Signature`
    * `Signature.all`
    * `Signature.find?`
-/

namespace PolicyCheck

------------------------------------------------------------
-- Literals
------------------------------------------------------------

/- The message of an error, if there is one. -/
def errorMessage?
    {ε α : Type}
    (message : ε → String) : Except ε α → Option String
  | .error e => some (message e)
  | .ok _ => none

/- Why a text is no literal of a kind, if it is none. -/
def ExtensionKind.literalError?
    (kind : ExtensionKind)
    (text : String) : Option String :=
  match kind with
  | .decimal =>
      errorMessage? (Decimal.Error.message text) (Decimal.parse text)
  | .ipaddr =>
      errorMessage? (IpAddr.Error.message text) (IpAddr.parse text)
  | .datetime =>
      errorMessage? (Datetime.Error.message text) (Datetime.parse text)
  | .duration =>
      errorMessage? (Duration.Error.message text) (Duration.parse text)

------------------------------------------------------------
-- Signatures
------------------------------------------------------------

/-
  The type of an extension function. A constructor takes
  one string, which must be a literal of the kind it makes.
-/
structure Signature where
  name : String
  args : List Ty
  result : Ty
  constructs : Option ExtensionKind
deriving Repr

namespace Signature

/- A constructor of values of a kind. -/
def constructor
    (name : String)
    (kind : ExtensionKind) : Signature :=
  ⟨name, [.string], .extension kind, some kind⟩

/- A function that is no constructor. -/
def function
    (name : String)
    (args : List Ty)
    (result : Ty) : Signature :=
  ⟨name, args, result, none⟩

/- The functions on IP addresses. -/
def ipaddr : List Signature :=
  let ip := Ty.extension .ipaddr
  [
    constructor "ip" .ipaddr,
    function "isIpv4" [ip] .bool,
    function "isIpv6" [ip] .bool,
    function "isLoopback" [ip] .bool,
    function "isMulticast" [ip] .bool,
    function "isInRange" [ip, ip] .bool
  ]

/- The functions on decimals. -/
def decimal : List Signature :=
  let decimal := Ty.extension .decimal
  [
    constructor "decimal" .decimal,
    function "lessThan" [decimal, decimal] .bool,
    function "lessThanOrEqual" [decimal, decimal] .bool,
    function "greaterThan" [decimal, decimal] .bool,
    function "greaterThanOrEqual" [decimal, decimal] .bool
  ]

/- The functions on datetimes and durations. -/
def datetime : List Signature :=
  let datetime := Ty.extension .datetime
  let duration := Ty.extension .duration
  [
    constructor "datetime" .datetime,
    constructor "duration" .duration,
    function "offset" [datetime, duration] datetime,
    function "durationSince" [datetime, datetime] duration,
    function "toDate" [datetime] datetime,
    function "toTime" [datetime] duration,
    function "toMilliseconds" [duration] .long,
    function "toSeconds" [duration] .long,
    function "toMinutes" [duration] .long,
    function "toHours" [duration] .long,
    function "toDays" [duration] .long
  ]

/- All extension functions. -/
def all : List Signature :=
  ipaddr ++ decimal ++ datetime

/- The function of a name. -/
def find?
    (name : String) : Option Signature :=
  all.find? fun signature => signature.name = name

end Signature

end PolicyCheck
