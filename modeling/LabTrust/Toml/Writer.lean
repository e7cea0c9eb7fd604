/-
Writing TOML.

* `quote`: a string in the first form that fits: between double quotes, between apostrophes, or
  between triples of either; if none fits, with escapes.
* `writeList`: a list of texts; two or more stand on lines of their own.
* `pair`: a key and its value on a line.
-/
import LabTrust.Toml.Quoted

namespace LabTrust.Toml

/-! ### Which form fits -/

/-- The longest row of a character in a text. -/
def longestRow (mark : Char) : Nat → List Char → Nat
  | row, [] => row
  | row, c :: rest => if c = mark then longestRow mark (row + 1) rest
    else max row (longestRow mark 0 rest)

/-- A control other than a tab and a line feed. -/
def isControl (c : Char) : Bool :=
  c != '\t' && c != '\n' && (decide (c.toNat < 0x20) || c.toNat == 0x7f)

/-- The forms of a string. -/
inductive Form where
  | basic
  | literal
  | basicLines
  | literalLines
  deriving DecidableEq

/-- The first form that fits. -/
def formOf (s : List Char) : Form :=
  let control := s.any isControl
  let newline := s.contains '\n'
  let escape := s.contains '\\'
  let quotes := longestRow '"' 0 s
  let apostrophes := longestRow apostrophe 0 s
  if !control && !escape && quotes == 0 && !newline then .basic
  else if !control && apostrophes == 0 && !newline then .literal
  else if !control && !escape && decide (quotes ≤ 2) then .basicLines
  else if !control && decide (apostrophes ≤ 2) then .literalLines
  else if newline then .basicLines
  else .basic

/-! ### Escapes -/

/-- The four upper-case hex digits of a code below 65536. -/
def codeDigits (n : Nat) : List Char :=
  [n / 4096 % 16, n / 256 % 16, n / 16 % 16, n % 16].map fun d => (Bytes.hexDigit d).toUpper

/-- The escape that a character needs between double quotes; `lines` lets line feeds stand. -/
def escapeOf? (lines : Bool) (c : Char) : Option (List Char) :=
  if c = '\x08' then some ['\\', 'b']
  else if c = '\t' then some ['\\', 't']
  else if c = '\n' then (if lines then none else some ['\\', 'n'])
  else if c = '\x0c' then some ['\\', 'f']
  else if c = '\x0d' then some ['\\', 'r']
  else if c = '\\' then some ['\\', '\\']
  else if c.toNat < 0x20 ∨ c.toNat = 0x7f then some ('\\' :: 'u' :: codeDigits c.toNat)
  else none

/-- Text between double quotes after `row` quotes as they are; at most `rows` may stand so. -/
def escaped (lines : Bool) (rows : Nat) : Nat → List Char → List Char
  | _, [] => []
  | row, c :: rest =>
    if c = '"' then
      if row < rows then c :: escaped lines rows (row + 1) rest
      else '\\' :: c :: escaped lines rows 0 rest
    else
      match escapeOf? lines c with
      | some e => e ++ escaped lines rows 0 rest
      | none => c :: escaped lines rows 0 rest

/-- The line feed that a form of several lines begins with if the text has one. -/
def opening (s : List Char) : List Char := if s.contains '\n' then ['\n'] else []

/-- A string in a form. -/
def quoteAs (form : Form) (s : List Char) : List Char :=
  match form with
  | .basic => '"' :: escaped false 0 0 s ++ ['"']
  | .literal => apostrophe :: s ++ [apostrophe]
  | .basicLines =>
    List.replicate 3 '"' ++ opening s ++ escaped true 2 0 s ++ List.replicate 3 '"'
  | .literalLines =>
    List.replicate 3 apostrophe ++ opening s ++ s ++ List.replicate 3 apostrophe

/-- A string in the first form that fits. -/
def quote (s : String) : String :=
  String.ofList (quoteAs (formOf s.toList) s.toList)

/-! ### Values and lines -/

/-- A list of texts; two or more stand on lines of their own. -/
def writeList (xs : List String) : String :=
  match xs with
  | [] => "[]"
  | [x] => "[" ++ quote x ++ "]"
  | xs => "[\n" ++ String.join (xs.map fun x => "    " ++ quote x ++ ",\n") ++ "]"

/-- A key and the text of its value. -/
def pair (key value : String) : String :=
  key ++ " = " ++ value ++ "\n"

end LabTrust.Toml
