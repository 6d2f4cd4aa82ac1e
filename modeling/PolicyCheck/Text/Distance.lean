/-
  This file defines the edit distance between two texts and
  the search for the closest candidate, which is what every
  spelling suggestion rests on.

  Key definitions include:
    * `distanceRow`
    * `distance`
    * `closest`
-/

namespace PolicyCheck

namespace Text

------------------------------------------------------------
-- Edit Distance
------------------------------------------------------------

/-
  The entries of the next row of the distance table, for
  one more character `c` of the first text. `diagonal` and
  `left` are the entries before and beside the one that is
  computed; the lists hold the rest of the second text and
  the rest of the previous row.
-/
def distanceRow
    (c : Char) : Nat → Nat → List Char → List Nat → List Nat
  | diagonal, left, d :: ds, up :: ups =>
      let here :=
        if c = d then diagonal
        else 1 + min diagonal (min up left)
      here :: distanceRow c up here ds ups
  | _, _, _, _ => []

/- The whole next row of the distance table. -/
def nextRow
    (target : List Char)
    (row : List Nat)
    (c : Char) : List Nat :=
  match row with
  | [] => []
  | first :: rest =>
      (first + 1) :: distanceRow c first (first + 1) target rest

/-
  The least number of insertions, deletions and
  substitutions of single characters that turn `source`
  into `target`.
-/
def distance
    (source target : List Char) : Nat :=
  let start := List.range (target.length + 1)
  (source.foldl (nextRow target) start).getLastD 0

------------------------------------------------------------
-- Suggestions
------------------------------------------------------------

/-
  The better of the best candidate so far and one that
  comes after it: the later one has to be strictly closer.
-/
def closer
    (key : List Char)
    (best candidate : String) : String :=
  if distance key candidate.toList < distance key best.toList then
    candidate
  else
    best

/-
  The candidate at the least distance from the key, the
  earliest one if several are. There is none for an empty
  key or an empty list.
-/
def closest
    (key : String) : List String → Option String
  | [] => none
  | c :: cs =>
      if key.isEmpty then none
      else some (cs.foldl (closer key.toList) c)

end Text

end PolicyCheck
