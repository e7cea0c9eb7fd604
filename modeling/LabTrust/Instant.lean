/-
Points in time.

* `Instant`: seconds since the beginning of 1970 and nanoseconds; a leap second is a second of its
  own, held as a billion nanoseconds or more beside the second before it.
* `Instant.parse?`: a date, a time of day and a difference from universal time.
* `Instant.write`: in universal time, with as many digits of the second as are needed, in threes.
-/
import LabTrust.Calendar
import LabTrust.Text.Blank

namespace LabTrust

/-- A point in time. -/
structure Instant where
  second : Int
  nano : Nat := 0
  deriving DecidableEq, Inhabited

namespace Instant

/-- The first comes after the second. -/
def isAfter (a b : Instant) : Bool :=
  decide (b.second < a.second) || (a.second == b.second && decide (b.nano < a.nano))

/-- The day on which an instant lies. -/
def date (t : Instant) : Date :=
  Date.ofDayNumber (t.second / 86400)

/-- The seconds since the day began. -/
def secondOfDay (t : Instant) : Nat :=
  (t.second % 86400).toNat

/-! ### Writing -/

/-- A number with zeros in front up to a width. -/
def padded (width n : Nat) : String :=
  let digits := toString n
  String.ofList (List.replicate (width - digits.length) '0') ++ digits

/-- A year: four digits, or a sign and at least four digits. -/
def writeYear (year : Int) : String :=
  if 0 ≤ year ∧ year ≤ 9999 then padded 4 year.toNat
  else (if year < 0 then "-" else "+") ++ padded 4 year.natAbs

/-- The digits after the second, in threes. -/
def writeFraction (nano : Nat) : String :=
  if nano = 0 then ""
  else if nano % 1000000 = 0 then "." ++ padded 3 (nano / 1000000)
  else if nano % 1000 = 0 then "." ++ padded 6 (nano / 1000)
  else "." ++ padded 9 nano

/-- An instant in universal time. -/
def write (t : Instant) : String :=
  let leap := t.nano / 1000000000
  let d := t.date
  let s := t.secondOfDay
  writeYear d.year ++ "-" ++ padded 2 d.month ++ "-" ++ padded 2 d.day ++ "T" ++
    padded 2 (s / 3600) ++ ":" ++ padded 2 (s / 60 % 60) ++ ":" ++ padded 2 (s % 60 + leap) ++
    writeFraction (t.nano % 1000000000) ++ "Z"

/-! ### Reading -/

/-- The text after the blanks at its front. -/
def skipBlank (s : List Char) : List Char :=
  s.dropWhile Text.isBlank

/-- A number of one to `width` digits. -/
def number? (width : Nat) (s : List Char) : Option (Nat × List Char) :=
  let ds := (s.take width).takeWhile Char.isDigit
  if ds.isEmpty then none
  else some (ds.foldl (fun n c => 10 * n + (c.toNat - 48)) 0, s.drop ds.length)

/-- A year of up to four digits, or of any length after a sign. -/
def year? (s : List Char) : Option (Int × List Char) :=
  match s with
  | '-' :: r => (number? r.length r).map fun (n, r) => (-(n : Int), r)
  | '+' :: r => (number? r.length r).map fun (n, r) => ((n : Int), r)
  | s => (number? 4 s).map fun (n, r) => ((n : Int), r)

/-- A separator, with blanks before it. -/
def mark? (c : Char) (s : List Char) : Option (List Char) :=
  match skipBlank s with
  | d :: r => if c = d then some r else none
  | [] => none

/-- Digits after a point, as nanoseconds; digits after the ninth do not count. -/
def fraction? : List Char → Option (Nat × List Char)
  | '.' :: s =>
    let ds := s.takeWhile Char.isDigit
    if ds.isEmpty then none
    else
      let kept := (ds ++ List.replicate 9 '0').take 9
      some (kept.foldl (fun n c => 10 * n + (c.toNat - 48)) 0, s.dropWhile Char.isDigit)
  | s => some (0, s)

/-- Two digits, the first at most `high`. -/
def twoDigits? (high : Nat) : List Char → Option (Nat × List Char)
  | a :: b :: rest =>
    if a.isDigit && b.isDigit && decide (a.toNat - 48 ≤ high) then
      some (10 * (a.toNat - 48) + (b.toNat - 48), rest)
    else none
  | _ => none

/-- The difference from universal time, in seconds. -/
def offset? (s : List Char) : Option (Int × List Char) :=
  match s with
  | [] => none
  | c :: rest =>
    if c = 'z' ∨ c = 'Z' then some (0, rest)
    else if (s.take 3).map Char.toLower = ['u', 't', 'c'] then some (0, s.drop 3)
    else if c = '+' ∨ c = '-' ∨ c.toNat = 0x2212 then do
      let (hours, rest) ← twoDigits? 9 rest
      let (minutes, rest) ← twoDigits? 5 (rest.dropWhile fun d => d = ':' ∨ Text.isBlank d)
      let seconds : Int := 3600 * hours + 60 * minutes
      return (if c = '+' then seconds else -seconds, rest)
    else none

/-- The years that instants may lie in. -/
def yearInRange (year : Int) : Bool :=
  decide (-262143 ≤ year) && decide (year ≤ 262142)

/-- The instant that a text gives. -/
def parse? (text : String) : Option Instant := do
  let (year, s) ← year? (skipBlank text.toList)
  let s ← mark? '-' s
  let (month, s) ← number? 2 (skipBlank s)
  let s ← mark? '-' s
  let (day, s) ← number? 2 (skipBlank s)
  let s ← match s with
    | c :: r => if c = 't' ∨ c = 'T' ∨ c = ' ' then some r else none
    | [] => none
  let (hour, s) ← number? 2 (skipBlank s)
  let s ← mark? ':' s
  let (minute, s) ← number? 2 (skipBlank s)
  let s ← mark? ':' s
  let (second, s) ← number? 2 (skipBlank s)
  let (fraction, s) ← fraction? s
  let (offset, s) ← offset? (skipBlank s)
  let date : Date := ⟨year, month, day⟩
  if (skipBlank s).isEmpty && yearInRange year && decide date.Valid && decide (hour ≤ 23) &&
      decide (minute ≤ 59) && decide (second ≤ 60) && decide (offset.natAbs < 86400) then
    let leap : Nat := if second = 60 then 1 else 0
    let total := 86400 * date.dayNumber + (3600 * hour + 60 * minute + (second - leap)) - offset
    let t : Instant := ⟨total, fraction + 1000000000 * leap⟩
    if yearInRange t.date.year then return t else none
  else none

end Instant

end LabTrust
