/-
Times of certificates.

* `Der.readTime?`: a time in one of the two forms, as seconds since the beginning of 1970. The short
  form has two digits for a year between 1950 and 2049.
* `Der.time`: seconds as a time, in the short form where it can be.
-/
import LabTrust.Der.Element
import LabTrust.Instant

namespace LabTrust

namespace Der

/-- The number of decimal digits at the front, exactly `width` of them, and the rest. -/
def digits? : Nat → Nat → Bytes → Option (Nat × Bytes)
  | 0, n, bs => some (n, bs)
  | width + 1, n, b :: rest =>
    if 48 ≤ b ∧ b ≤ 57 then digits? width (10 * n + (b.toNat - 48)) rest else none
  | _ + 1, _, [] => none

/-- The difference from universal time, in seconds. -/
def zone? : Bytes → Option Int
  | [0x5a] => some 0
  | sign :: rest => do
    let (hours, rest) ← digits? 2 0 rest
    let (minutes, rest) ← digits? 2 0 rest
    let seconds : Int := 3600 * hours + 60 * minutes
    if rest = [] ∧ hours ≤ 23 ∧ minutes ≤ 59 then
      if sign = 0x2b then some seconds else if sign = 0x2d then some (-seconds) else none
    else none
  | [] => none

/-- The seconds of a date, a time of day and a difference from universal time, if there is such a
date and time. -/
def seconds? (date : Date) (hour minute second : Nat) (zone : Int) : Option Int :=
  if date.Valid ∧ hour ≤ 23 ∧ minute ≤ 59 ∧ second ≤ 59 then
    some (86400 * date.dayNumber + (3600 * hour + 60 * minute + second : Nat) - zone)
  else none

/-- The month, day, hour and minute at the front, and the rest. -/
def readMinute? (bs : Bytes) : Option ((Nat × Nat × Nat × Nat) × Bytes) := do
  let (month, bs) ← digits? 2 0 bs
  let (day, bs) ← digits? 2 0 bs
  let (hour, bs) ← digits? 2 0 bs
  let (minute, bs) ← digits? 2 0 bs
  return ((month, day, hour, minute), bs)

/-- A time in the short form. Its seconds may be missing. -/
def shortTime? (bs : Bytes) : Option Int := do
  let (year, bs) ← digits? 2 0 bs
  let ((month, day, hour, minute), bs) ← readMinute? bs
  let (second, bs) := (digits? 2 0 bs).getD (0, bs)
  let zone ← zone? bs
  seconds? ⟨(if year < 50 then 2000 + year else 1900 + year : Nat), month, day⟩ hour minute second zone

/-- What follows the second in the long form: up to three digits, and the mark of universal time. -/
def isLongEnd : Bytes → Bool
  | [0x5a] => true
  | 0x2e :: rest =>
    decide (2 ≤ rest.length ∧ rest.length ≤ 4) && rest.getLast? == some 0x5a &&
      rest.dropLast.all fun b => decide (48 ≤ b ∧ b ≤ 57)
  | _ => false

/-- A time in the long form. -/
def longTime? (bs : Bytes) : Option Int := do
  let (year, bs) ← digits? 4 0 bs
  let ((month, day, hour, minute), bs) ← readMinute? bs
  let (second, bs) ← digits? 2 0 bs
  if isLongEnd bs then seconds? ⟨(year : Nat), month, day⟩ hour minute second 0 else none

/-- The time at the front, in seconds, and the rest. -/
def readTime? (bs : Bytes) : Option (Int × Bytes) := do
  let (e, rest) ← read? bs
  let t ← if e.tag = utcTime then shortTime? e.content
    else if e.tag = generalizedTime then longTime? e.content
    else none
  return (t, rest)

/-- Seconds as a time. -/
def time (seconds : Int) : Bytes :=
  let d := Date.ofDayNumber (seconds / 86400)
  let s := (seconds % 86400).toNat
  let year := d.year.toNat
  let rest := Instant.padded 2 d.month ++ Instant.padded 2 d.day ++ Instant.padded 2 (s / 3600) ++
    Instant.padded 2 (s / 60 % 60) ++ Instant.padded 2 (s % 60) ++ "Z"
  if 1950 ≤ d.year ∧ d.year < 2050 then element utcTime (.ofText (Instant.padded 2 (year % 100) ++ rest))
  else element generalizedTime (.ofText (Instant.padded 4 year ++ rest))

end Der

end LabTrust
