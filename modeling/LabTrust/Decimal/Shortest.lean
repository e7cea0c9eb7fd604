/-
The shortest decimal text of a binary fraction.

A finite number is `m * 2 ^ q`. All decimals closer to it than to its neighbours read back as it;
of those with the fewest digits the nearest is taken.
* `Binary.ofBits`: the fraction that 64 bits stand for.
* `Binary.shortest`: its digits and the power of ten that they are multiplied by.
* `write`: the positional text of a number, with a point in it.
-/

namespace LabTrust.Decimal

/-- A positive binary fraction `m * 2 ^ q`; `even` and `narrow` tell how its neighbours lie. -/
structure Binary where
  m : Nat
  q : Int
  /-- The last bit of `m` is zero, so that a decimal half-way to a neighbour reads back as this. -/
  even : Bool
  /-- The neighbour below is only half as far as the neighbour above. -/
  narrow : Bool

namespace Binary

/-- The fraction of the lower 63 bits of a number, which is not zero and is finite. -/
def ofBits (bits : Nat) : Binary :=
  let e : Nat := (bits >>> 52) % 2048
  let f : Nat := bits % (1 <<< 52)
  if e = 0 then ⟨f, -1074, f % 2 == 0, false⟩
  else ⟨f + (1 <<< 52), (e : Int) - 1075, f % 2 == 0, f == 0 && 1 < e⟩

/-- A power of ten; one if the exponent is negative. -/
def tens (k : Int) : Nat := Nat.pow 10 k.toNat

/-- A power of two; one if the exponent is negative. -/
def twos (k : Int) : Nat := 1 <<< k.toNat

/-- Four times the fraction over a denominator: `(numerator, denominator)`. -/
def quarters (b : Binary) : Nat × Nat :=
  (4 * b.m * twos b.q, twos (-b.q))

/-- The decimal `d * 10 ^ k` lies where decimals read back as `b`. -/
def holds (b : Binary) (d : Nat) (k : Int) : Bool :=
  let (_, den) := b.quarters
  let low := (4 * b.m - (if b.narrow then 1 else 2)) * twos b.q
  let high := (4 * b.m + 2) * twos b.q
  let x := 4 * d * den * tens k
  let scale := tens (-k)
  if b.even then decide (low * scale ≤ x) && decide (x ≤ high * scale)
  else decide (low * scale < x) && decide (x < high * scale)

/-- The digits of a number. -/
def digitCount (n : Nat) : Nat := (Nat.toDigits 10 n).length

/-- The power of ten of the leading digit: exact, or one too large. -/
def leading (b : Binary) : Int :=
  let (num, den) := b.quarters
  (digitCount num : Int) - digitCount den

/-- The two decimals around `b` in steps of `10 ^ k`, the nearer first. -/
def around (b : Binary) (k : Int) : List Nat :=
  let (num, den) := b.quarters
  let top := num * tens (-k)
  let bottom := 4 * den * tens k
  let below := top / bottom
  if 2 * (top % bottom) < bottom then [below, below + 1]
  else if 2 * (top % bottom) = bottom then
    (if below % 2 = 0 then [below, below + 1] else [below + 1, below])
  else [below + 1, below]

/-- The first hit among steps from `k` downwards. -/
def search (b : Binary) : Nat → Int → Nat × Int
  | 0, k => ((b.around k).headD 0, k)
  | fuel + 1, k =>
    match (b.around k).find? fun d => d ≠ 0 && b.holds d k with
    | some d => (d, k)
    | none => search b fuel (k - 1)

/-- The fewest digits that read back, and the power of ten of the last of them. -/
def shortest (b : Binary) : Nat × Int :=
  b.search 20 (b.leading + 1)

end Binary

/-- Digits around a point that stands `k` places from their end. -/
def positional (d : Nat) (k : Int) : String :=
  if 0 ≤ k then toString d ++ String.ofList (List.replicate k.toNat '0') ++ ".0"
  else
    let ds := Nat.toDigits 10 d
    let places := (-k).toNat
    let padded := List.replicate (places + 1 - ds.length) '0' ++ ds
    let whole := padded.take (padded.length - places)
    let fraction := padded.drop (padded.length - places)
    String.ofList (whole ++ '.' :: fraction)

/-- The positional text of a number; numbers without digits have words. -/
def write (x : Float) : String :=
  let bits := x.toBits.toNat
  let sign := if 1 <<< 63 ≤ bits then "-" else ""
  let rest := bits % (1 <<< 63)
  if rest > 2047 <<< 52 then "NaN"
  else if rest = 2047 <<< 52 then sign ++ "inf"
  else if rest = 0 then sign ++ "0.0"
  else
    let (d, k) := (Binary.ofBits rest).shortest
    sign ++ positional d k

end LabTrust.Decimal
