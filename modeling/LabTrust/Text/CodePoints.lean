/-
Sets of code points given by where they begin and end.

* `CodePoints.mem`: a code point belongs to the set iff an odd number of bounds lie at or below it.
-/

namespace LabTrust.Text

/-- Rising bounds: every second bound opens an interval, the next one closes it. -/
structure CodePoints where
  bounds : List Nat

namespace CodePoints

/-- The set holds `n`. -/
def mem (s : CodePoints) (n : Nat) : Bool :=
  (s.bounds.takeWhile (· ≤ n)).length % 2 == 1

end CodePoints

end LabTrust.Text
