/-
Blank characters and trimming.

* `isBlank`: the characters that count as white space, in any script.
* `trim`, `trimEnd`: a text without the blanks around it, or after it.
* `blank`: a text that has nothing but blanks.
-/

namespace LabTrust.Text

/-- Characters that count as white space. -/
def isBlank (c : Char) : Bool :=
  let n := c.toNat
  (decide (9 ≤ n) && decide (n ≤ 13)) || n == 32 || n == 0x85 || n == 0xa0 || n == 0x1680 ||
    (decide (0x2000 ≤ n) && decide (n ≤ 0x200a)) || n == 0x2028 || n == 0x2029 || n == 0x202f ||
    n == 0x205f || n == 0x3000

/-- Drops the blanks at the end. -/
def trimEnd (s : List Char) : List Char :=
  (s.reverse.dropWhile isBlank).reverse

/-- Drops the blanks at both ends. -/
def trim (s : List Char) : List Char :=
  trimEnd (s.dropWhile isBlank)

/-- A text that holds nothing but blanks. -/
def blank (s : String) : Bool :=
  (trim s.toList).isEmpty

end LabTrust.Text
