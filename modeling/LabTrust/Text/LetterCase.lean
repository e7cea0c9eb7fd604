/-
Capital and small letters.

* `upper`, `lower`: a text in capitals, or in small letters. A letter may become several; the
  capital sigma has a small form of its own at the end of a word.
* `capitalize`: a capital first character before small ones.
-/
import LabTrust.Text.CaseTable

namespace LabTrust.Text

/-- The first run that holds `n` says where it goes; without one, `n` stays. -/
def moveBy (runs : List CaseRun) (n : Nat) : Nat :=
  (runs.findSome? (·.image? n)).getD n

/-- The capital form of a character. -/
def upperChar (c : Char) : List Char :=
  if c.toNat < 128 then [c.toUpper]
  else
    match upperExpansions.lookup c.toNat with
    | some codes => codes.map Char.ofNat
    | none => [Char.ofNat (moveBy upperRuns c.toNat)]

/-- The small form of a character, whatever stands around it. -/
def lowerChar (c : Char) : List Char :=
  if c.toNat < 128 then [c.toLower]
  else if c.toNat = 0x130 then ['i', Char.ofNat 0x307]
  else [Char.ofNat (moveBy lowerRuns c.toNat)]

/-- Past the marks that do not count, the text goes on with a letter. -/
def meetsLetter (s : List Char) : Bool :=
  match s.dropWhile (caseIgnorable.mem ·.toNat) with
  | [] => false
  | c :: _ => cased.mem c.toNat

/-- A text in capitals. -/
def upper (s : List Char) : List Char :=
  s.flatMap upperChar

/-- Small letters for the characters after `before`, which holds those passed, last first. -/
def lowerAfter : List Char → List Char → List Char
  | _, [] => []
  | before, c :: rest =>
    let small :=
      if c.toNat = 0x3a3 then
        [Char.ofNat (if meetsLetter before && !meetsLetter rest then 0x3c2 else 0x3c3)]
      else lowerChar c
    small ++ lowerAfter (c :: before) rest

/-- A text in small letters. -/
def lower (s : List Char) : List Char :=
  lowerAfter [] s

/-- A capital first character before small ones. -/
def capitalize : List Char → List Char
  | [] => []
  | c :: rest => upperChar c ++ lower rest

end LabTrust.Text
