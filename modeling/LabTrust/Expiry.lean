/-
Validity texts such as `8760h` or `1h30m`.

A validity is a row of groups, each a number and a unit; its length is the sum of the groups. It is
added up in a counter of 64 bits, and what does not fit the counter is refused on the way.
* `Expiry.sum?`: the seconds that the groups add up to.
* `Expiry.parse`: a validity of one second to `Expiry.longest`; blanks around it do not matter.
-/
import LabTrust.Error
import LabTrust.Text.Blank

namespace LabTrust.Expiry

/-- Validity of a root whose request sets none: five years. -/
def rootDefault : String := "43800h"

/-- Validity of a leaf where neither identity nor settings set one: a year. -/
def leafDefault : String := "8760h"

/-- The longest validity in seconds, which a count of nanoseconds in 64 bits still holds. -/
def longest : Nat := 9223372036

/-- The seconds of a unit. -/
def unit? (c : Char) : Option Nat :=
  if c = 'h' then some 3600 else if c = 'm' then some 60 else if c = 's' then some 1 else none

/-- The greatest number of a counter: 64 bits, one of them for the sign. -/
def capacity : Nat := 9223372036854775807

/-- A number that a counter holds. -/
def held? (n : Nat) : Option Nat := if n ≤ capacity then some n else none

/-- The number that digits spell. -/
def number? (digits : List Char) : Option Nat :=
  if digits = [] then none else held? (Nat.ofDigitChars 10 digits 0)

/-- The groups' sum on top of `total`; `digits` are those read since the last unit. -/
def sumFrom? (digits : List Char) (total : Nat) : List Char → Option Nat
  | [] => if digits = [] then some total else none
  | c :: rest =>
    if c.isDigit then sumFrom? (digits ++ [c]) total rest
    else do
      let unit ← unit? c
      let count ← number? digits
      let seconds ← held? (count * unit)
      let sum ← held? (total + seconds)
      sumFrom? [] sum rest

/-- The seconds that a row of groups adds up to. -/
def sum? (s : List Char) : Option Nat :=
  sumFrom? [] 0 s

/-- The seconds of a validity text. -/
def parse (s : String) : Except Error Nat :=
  match sum? (Text.trim s.toList) with
  | some n => if 1 ≤ n ∧ n ≤ longest then .ok n else .error (.badExpiry s)
  | none => .error (.badExpiry s)

/-- Only a sum within the bounds is a validity. -/
theorem parse_eq_ok_iff {s : String} {n : Nat} :
    parse s = .ok n ↔ sum? (Text.trim s.toList) = some n ∧ 1 ≤ n ∧ n ≤ longest := by
  unfold parse
  split
  · next m h =>
    split <;> simp_all <;> omega
  · next h => simp [h]

/-- A refusal quotes the text as it was given. -/
theorem parse_eq_error {s : String} {e : Error} (h : parse s = .error e) : e = .badExpiry s := by
  unfold parse at h
  split at h
  · split at h <;> simp_all
  · simp_all

end LabTrust.Expiry
