import PolicyCheck.Json.Binary64

/-
  This file defines JSON documents. Objects keep the order
  of their members and may repeat a key, as a text can;
  numbers remember whether they were written as integers.

  Key definitions include:
    * `Json.Number`
    * `Json`
    * `Json.collapse`
    * `Json.hasKey`
-/

namespace PolicyCheck

------------------------------------------------------------
-- Documents
------------------------------------------------------------

/- A number: an integer of 64 bits, signed or not, or a float. -/
inductive Json.Number where
  | int (value : Int)
  | float (value : Binary64)
deriving DecidableEq, Repr

/- A JSON document. -/
inductive Json where
  | null
  | bool (value : Bool)
  | num (value : Json.Number)
  | str (value : String)
  | arr (items : List Json)
  | obj (members : List (String × Json))
deriving Repr, Inhabited

namespace Json

------------------------------------------------------------
-- Repeated Keys
------------------------------------------------------------

/-
  Give a key a value: in place of its value if it has one,
  and as the last member if it has none.
-/
def setMember
    (key : String)
    (value : Json) : List (String × Json) → List (String × Json)
  | [] => [(key, value)]
  | (k, v) :: rest =>
      if k = key then (key, value) :: rest
      else (k, v) :: setMember key value rest

mutual

/-
  The document in which no object repeats a key: the last
  value of each key is kept, at the place of the first.
-/
def collapse : Json → Json
  | .null => .null
  | .bool b => .bool b
  | .num n => .num n
  | .str s => .str s
  | .arr items => .arr (collapseItems items)
  | .obj members => .obj (collapseMembers [] members)

/- Collapse every item of an array. -/
def collapseItems : List Json → List Json
  | [] => []
  | j :: rest => collapse j :: collapseItems rest

/- Collapse the members of an object onto those before them. -/
def collapseMembers
    (done : List (String × Json)) :
    List (String × Json) → List (String × Json)
  | [] => done
  | (k, v) :: rest =>
      collapseMembers (setMember k (collapse v) done) rest

end

------------------------------------------------------------
-- Access
------------------------------------------------------------

/- The document is an object with a member of this key. -/
def hasKey
    (key : String) : Json → Bool
  | .obj members => members.any fun (k, _) => k == key
  | _ => false

/- An integer as a document. -/
def ofInt
    (i : Int) : Json :=
  .num (.int i)

end Json

end PolicyCheck
