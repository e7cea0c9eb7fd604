/-
Signatures on the twisted curve `y ^ 2 - x ^ 2 = 1 + d * x ^ 2 * y ^ 2` over the prime `2 ^ 255 - 19`.

* `Edwards.publicBits`, `Edwards.sign`, `Edwards.verify`: keys and signatures as bytes, a secret key
  being 32 bytes from which a number and a prefix of random values are made.

Points are held as four numbers: the coordinates are `x / z` and `y / z`, and `t` is `x * y / z`.
-/
import LabTrust.Hash
import LabTrust.Key.Modular

namespace LabTrust

namespace Edwards

/-- The prime that coordinates are remainders of. -/
def prime : Nat := 0x7fffffffffffffffffffffffffffffffffffffffffffffffffffffffffffffed

/-- The constant of the equation. -/
def constant : Nat := 0x52036cee2b6ffe738cc740797779e89800700a4d4141d8ab75eb4dca135978a3

/-- A square root of minus one. -/
def rootOfMinusOne : Nat := 0x2b8324804fc1df0b2b4d00993dfbd7a72f431806ad2fe478c4ee1b274a0ea0b0

/-- How many multiples the base point has. -/
def order : Nat := 0x1000000000000000000000000000000014def9dea2f79cd65812631a5cf5d3ed

/-- A point by four numbers. -/
structure Point where
  x : Nat
  y : Nat
  z : Nat
  t : Nat
  deriving DecidableEq, Inhabited

/-- The point of coordinates. -/
def Point.ofPair (x y : Nat) : Point := ⟨x, y, 1, x * y % prime⟩

/-- The point that changes nothing. -/
def zero : Point := ⟨0, 1, 1, 0⟩

/-- The base point. -/
def base : Point :=
  .ofPair 0x216936d3cd6e53fec0a4e231fdd6dc5c692cc7609525a7b2c9562d608f25d51a
    0x6666666666666666666666666666666666666666666666666666666666666658

/-- The sum of two points. -/
def add (q r : Point) : Point :=
  let a := Modular.sub prime q.y q.x * Modular.sub prime r.y r.x % prime
  let b := (q.y + q.x) * (r.y + r.x) % prime
  let c := 2 * constant * q.t % prime * r.t % prime
  let d := 2 * q.z * r.z % prime
  let e := Modular.sub prime b a
  let f := Modular.sub prime d c
  let g := d + c
  let h := b + a
  ⟨e * f % prime, g * h % prime, f * g % prime, e * h % prime⟩

/-- A multiple of a point. -/
def multiple (n : Nat) (q : Point) : Point :=
  if n = 0 then zero
  else
    let half := multiple (n / 2) q
    let twice := add half half
    if n % 2 = 1 then add twice q else twice
termination_by n
decreasing_by omega

/-- The number of bytes, lowest first. -/
def number (bs : Bytes) : Nat := Bytes.toNat bs.reverse

/-- The bytes of a number, lowest first. -/
def bytes (width n : Nat) : Bytes := (Bytes.ofNat width n).reverse

/-- The place of the bit that tells a first coordinate from its opposite. -/
def signPlace : Nat := 1 <<< 255

/-- A point as bytes: its second coordinate, and the lowest bit of the first at the end. -/
def encode (q : Point) : Bytes :=
  let i := Modular.inverse prime q.z
  let x := q.x * i % prime
  let y := q.y * i % prime
  bytes 32 (y + signPlace * (x % 2))

/-- The point of bytes. -/
def decode? (bs : Bytes) : Option Point :=
  let n := number bs
  let y := n % signPlace % prime
  let u := Modular.sub prime (y * y) 1
  let v := (constant * (y * y % prime) + 1) % prime
  let v3 := v * v % prime * v % prime
  let root := u * v3 % prime * Modular.pow prime (u * v3 % prime * (v3 * v % prime) % prime)
    ((prime - 5) / 8) % prime
  let check := v * (root * root % prime) % prime
  let x := if check = u then root else root * rootOfMinusOne % prime
  if bs.length = 32 ∧ (check = u ∨ check = Modular.sub prime 0 u) then
    some (.ofPair (if x % 2 = n / signPlace then x else Modular.sub prime 0 x) y)
  else none

/-- The number and the prefix of a secret key. -/
def expand (secret : Bytes) : Nat × Bytes :=
  let h := Hash.sha512.digest secret
  let n := number (h.take 32)
  (n % (1 <<< 254) - n % 8 + (1 <<< 254), h.drop 32)

/-- The public key of a secret key. -/
def publicBits (secret : Bytes) : Bytes := encode (multiple (expand secret).1 base)

/-- The signature of a message. -/
def sign (secret message : Bytes) : Bytes :=
  let (n, start) := expand secret
  let key := publicBits secret
  let r := number (Hash.sha512.digest (start ++ message)) % order
  let point := encode (multiple r base)
  let k := number (Hash.sha512.digest (point ++ key ++ message)) % order
  point ++ bytes 32 ((r + k * n) % order)

/-- The bytes are the signature of a message by the holder of a key. -/
def verify (key message signature : Bytes) : Bool :=
  let point := signature.take 32
  let s := number (signature.drop 32)
  match decode? key with
  | none => false
  | some a =>
    if signature.length ≠ 64 ∨ order ≤ s then false
    else
      let k := number (Hash.sha512.digest (point ++ key ++ message)) % order
      let opposite : Point := { a with x := Modular.sub prime 0 a.x, t := Modular.sub prime 0 a.t }
      encode (add (multiple s base) (multiple k opposite)) == point

end Edwards

end LabTrust
