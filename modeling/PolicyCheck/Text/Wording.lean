/-
  This file holds the turns of phrase that messages share.

  Key definitions include:
    * `ticked`
    * `tickedList`
    * `counted`
    * `didYouMean`
-/

namespace PolicyCheck

/- A text between backticks. -/
def ticked
    (s : String) : String :=
  "`" ++ s ++ "`"

/- A list of texts between backticks. -/
def tickedList
    (ss : List String) : String :=
  ", ".intercalate (ss.map ticked)

/- A noun, in the plural for several things. -/
def counted
    (noun : String)
    (count : Nat) : String :=
  if 1 < count then noun ++ "s" else noun

/- The suggestion to write something else. -/
def didYouMean
    (s : String) : String :=
  "did you mean " ++ ticked s ++ "?"

end PolicyCheck
