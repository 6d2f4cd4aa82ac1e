import PolicyCheck.Text.Ranges

/-
  This file holds the characters that count as blank when
  a text is trimmed: the Unicode property White_Space.

  Key definitions include:
    * `blankRanges`
    * `isBlank`
    * `trimStart`
-/

namespace PolicyCheck

namespace Text

------------------------------------------------------------
-- The Table
------------------------------------------------------------

/-
  The code points with the property White_Space.
-/
def blankRanges : List (Nat × Nat) :=
  [
    (0x9, 0xD), (0x20, 0x20), (0x85, 0x85), (0xA0, 0xA0),
    (0x1680, 0x1680), (0x2000, 0x200A), (0x2028, 0x2029), (0x202F, 0x202F),
    (0x205F, 0x205F), (0x3000, 0x3000)
  ]

------------------------------------------------------------
-- Trimming
------------------------------------------------------------

/- A character is blank when its code point is in the table. -/
def isBlank
    (c : Char) : Bool :=
  inRanges blankRanges c.toNat

/- A text without its leading blanks. -/
def trimStart
    (cs : List Char) : List Char :=
  cs.dropWhile isBlank

end Text

end PolicyCheck
