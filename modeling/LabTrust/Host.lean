/-
Addresses of hosts.

* `Host.address?`: the four or sixteen octets of a host that is an address. The decimal form has no
  leading zeros; the long form may leave out one run of zeros and may end in the decimal form.
* `Host.addressText?`: octets as text, the longest run of zeros left out.
-/
import LabTrust.Bytes

namespace LabTrust

namespace Host

/-! ### Reading -/

/-- One number of the decimal form. -/
def octet? (s : List Char) : Option UInt8 :=
  let n := s.foldl (fun n c => 10 * n + (c.toNat - 48)) 0
  if s ≠ [] ∧ s.all Char.isDigit ∧ s.length ≤ 3 ∧ n ≤ 255 ∧ (s.head? = some '0' → s.length = 1) then
    some (UInt8.ofNat n)
  else none

/-- The octets of the decimal form. -/
def short? (s : List Char) : Option Bytes :=
  let parts := s.splitOn '.'
  if parts.length = 4 then parts.mapM octet? else none

/-- The two octets of a group of hex digits. -/
def group? (s : List Char) : Option Bytes := do
  let digits ← s.mapM Bytes.hexValue?
  if s ≠ [] ∧ s.length ≤ 4 then
    return Bytes.ofNat 2 (digits.foldl (fun n d => 16 * n + d) 0)
  else none

/-- The octets of groups; the last may be in the decimal form. -/
def groups? : List (List Char) → Option Bytes
  | [] => some []
  | [last] => (group? last).or (short? last)
  | part :: rest => do return (← group? part) ++ (← groups? rest)

/-- The octets of a text of groups, none if it is empty. -/
def side? (s : List Char) : Option Bytes :=
  if s = [] then some [] else groups? (s.splitOn ':')

/-- The text before the first doubled colon, and the text after it. -/
def splitGap? : List Char → Option (List Char × List Char)
  | [] => none
  | ':' :: ':' :: rest => some ([], rest)
  | c :: rest => (splitGap? rest).map fun (before, after) => (c :: before, after)

/-- The octets of the long form. -/
def long? (s : List Char) : Option Bytes :=
  match splitGap? s with
  | none => do
    let octets ← groups? (s.splitOn ':')
    if octets.length = 16 then return octets else none
  | some (before, after) => do
    if before.contains '.' then none
    let head ← side? before
    let tail ← side? after
    if head.length + tail.length ≤ 14 then
      return head ++ List.replicate (16 - (head.length + tail.length)) 0 ++ tail
    else none

/-- The octets of a host that is an address. -/
def address? (s : List Char) : Option Bytes :=
  (short? s).or (long? s)

/-! ### Writing -/

/-- The decimal form of octets. -/
def shortText (octets : Bytes) : String :=
  ".".intercalate (octets.map fun b => toString b.toNat)

/-- The numbers of pairs of octets. -/
def groupsOf : Bytes → List Nat
  | a :: b :: rest => (256 * a.toNat + b.toNat) :: groupsOf rest
  | _ => []

/-- The hex digits of a number without leading zeros. -/
def hexText (n : Nat) : String := String.ofList (Nat.toDigits 16 n)

/-- Groups with colons between them. -/
def groupsText (groups : List Nat) : String := ":".intercalate (groups.map hexText)

/-- How many zeros a list begins with. -/
def zeros (groups : List Nat) : Nat := (groups.takeWhile (· = 0)).length

/-- The first of the longest runs of zeros: where it begins, and its length. -/
def longestGap (at_ : Nat) : List Nat → Nat × Nat
  | [] => (at_, 0)
  | g :: rest =>
    let here := zeros (g :: rest)
    let later := longestGap (at_ + 1) rest
    if later.2 ≤ here then (at_, here) else later

/-- The long form of eight groups. -/
def longText (groups : List Nat) : String :=
  let (start, length) := longestGap 0 groups
  if length < 2 then groupsText groups
  else groupsText (groups.take start) ++ "::" ++ groupsText (groups.drop (start + length))

/-- An address as text, if it has four or sixteen octets. Short addresses among the long ones keep
their decimal form. -/
def addressText? (octets : Bytes) : Option String :=
  if octets.length = 4 then some (shortText octets)
  else if octets.length = 16 then
    if octets.take 12 = List.replicate 10 0 ++ [255, 255] then
      some ("::ffff:" ++ shortText (octets.drop 12))
    else some (longText (groupsOf octets))
  else none

end Host

end LabTrust
