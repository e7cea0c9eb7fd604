/-
Signatures with points of a curve.

* `Curve`: the two curves of the standard, with coordinates of 32 and of 48 bytes.
* `Curve.multiple`: a multiple of a point, by doubling and adding.
* `Curve.publicBits`, `Curve.sign`, `Curve.verify`: keys as points, and signatures as two numbers.

Points are held as three numbers: the coordinates are `x / z ^ 2` and `y / z ^ 3`, and a point whose
third number is zero is the one at infinity.
-/
import LabTrust.Bytes
import LabTrust.Key.Modular

namespace LabTrust

/-- A curve of the standard. -/
inductive Curve where
  | p256
  | p384
  deriving DecidableEq, Inhabited

namespace Curve

/-- How many bytes a coordinate has. -/
def width : Curve → Nat
  | p256 => 32
  | p384 => 48

/-- The prime that coordinates are remainders of. -/
def prime : Curve → Nat
  | p256 => 0xffffffff00000001000000000000000000000000ffffffffffffffffffffffff
  | p384 => 0xfffffffffffffffffffffffffffffffffffffffffffffffffffffffffffffffeffffffff0000000000000000ffffffff

/-- The constant of the equation `y ^ 2 = x ^ 3 - 3 * x + b`. -/
def constant : Curve → Nat
  | p256 => 0x5ac635d8aa3a93e7b3ebbd55769886bc651d06b0cc53b0f63bce3c3e27d2604b
  | p384 => 0xb3312fa7e23ee7e4988e056be3f82d19181d9c6efe8141120314088f5013875ac656398d8a2ed19d2a85c8edd3ec2aef

/-- How many multiples the base point has. -/
def order : Curve → Nat
  | p256 => 0xffffffff00000000ffffffffffffffffbce6faada7179e84f3b9cac2fc632551
  | p384 => 0xffffffffffffffffffffffffffffffffffffffffffffffffc7634d81f4372ddf581a0db248b0a77aecec196accc52973

/-- The coordinates of the base point. -/
def base : Curve → Nat × Nat
  | p256 =>
    (0x6b17d1f2e12c4247f8bce6e563a440f277037d812deb33a0f4a13945d898c296,
      0x4fe342e2fe1a7f9b8ee7eb4a7c0f9e162bce33576b315ececbb6406837bf51f5)
  | p384 =>
    (0xaa87ca22be8b05378eb1c71ef320ad746e1d3b628ba79b9859f741e082542a385502f25dbf55296c3a545e3872760ab7,
      0x3617de4a96262c6f5d9e98bf9292dc29f8f41dbd289a147ce9da3113b5f0b8c00a60b1ce1d7e819d7a431d7c90ea0e5f)

/-! ### Points -/

/-- A point by three numbers. -/
structure Point where
  x : Nat
  y : Nat
  z : Nat
  deriving DecidableEq, Inhabited

/-- The point of coordinates. -/
def Point.ofPair (c : Nat × Nat) : Point := ⟨c.1, c.2, 1⟩

/-- The point at infinity. -/
def infinity : Point := ⟨1, 1, 0⟩

/-- The sum of a point and itself. -/
def double (c : Curve) (q : Point) : Point :=
  let p := c.prime
  if q.z = 0 ∨ q.y = 0 then infinity
  else
    let yy := q.y * q.y % p
    let zz := q.z * q.z % p
    let s := 4 * q.x * yy % p
    let m := 3 * Modular.sub p q.x zz * (q.x + zz) % p
    let x := Modular.sub p (m * m) (2 * s)
    ⟨x, Modular.sub p (m * Modular.sub p s x) (8 * yy * yy), 2 * q.y * q.z % p⟩

/-- The sum of two points. -/
def add (c : Curve) (q r : Point) : Point :=
  let p := c.prime
  if q.z = 0 then r
  else if r.z = 0 then q
  else
    let qq := q.z * q.z % p
    let rr := r.z * r.z % p
    let u := q.x * rr % p
    let s := q.y * rr % p * r.z % p
    let h := Modular.sub p (r.x * qq) u
    let t := Modular.sub p (r.y * qq % p * q.z) s
    if h = 0 then (if t = 0 then c.double q else infinity)
    else
      let hh := h * h % p
      let v := u * hh % p
      let hhh := h * hh % p
      let x := Modular.sub p (t * t) (hhh + 2 * v)
      ⟨x, Modular.sub p (t * Modular.sub p v x) (s * hhh), h * q.z % p * r.z % p⟩

/-- A multiple of a point. -/
def multiple (c : Curve) (n : Nat) (q : Point) : Point :=
  if n = 0 then infinity
  else
    let half := c.double (c.multiple (n / 2) q)
    if n % 2 = 1 then c.add half q else half
termination_by n
decreasing_by omega

/-- The coordinates of a point that is not at infinity. -/
def coordinates? (c : Curve) (q : Point) : Option (Nat × Nat) :=
  if q.z % c.prime = 0 then none
  else
    let i := Modular.inverse c.prime q.z
    let ii := i * i % c.prime
    some (q.x * ii % c.prime, q.y * ii % c.prime * i % c.prime)

/-- The coordinates satisfy the equation of the curve. -/
def holds (c : Curve) (x y : Nat) : Bool :=
  let p := c.prime
  decide (x < p) && decide (y < p) &&
    y * y % p == (Modular.sub p (x * x % p) 3 * x + c.constant) % p

/-! ### Keys -/

/-- The public key of a secret number: its multiple of the base point, both coordinates. -/
def publicBits (c : Curve) (secret : Nat) : Bytes :=
  match c.coordinates? (c.multiple secret (.ofPair c.base)) with
  | some (x, y) => 4 :: (Bytes.ofNat c.width x ++ Bytes.ofNat c.width y)
  | none => [0]

/-- The point of a public key with both coordinates. -/
def publicPoint? (c : Curve) (bits : Bytes) : Option Point :=
  match bits with
  | 4 :: rest =>
    let x := Bytes.toNat (rest.take c.width)
    let y := Bytes.toNat (rest.drop c.width)
    if rest.length = 2 * c.width ∧ c.holds x y then some (.ofPair (x, y)) else none
  | _ => none

/-! ### Signatures -/

/-- The number of a hash: no more of its bytes than the order has. -/
def hashNumber (c : Curve) (hash : Bytes) : Nat :=
  Bytes.toNat (hash.take c.width) % c.order

/-- The two numbers of the signature of a hash, made with a number that is used only once. -/
def sign (c : Curve) (secret once : Nat) (hash : Bytes) : Nat × Nat :=
  let r := ((c.coordinates? (c.multiple once (.ofPair c.base))).getD (0, 0)).1 % c.order
  (r, Modular.inverse c.order once * (c.hashNumber hash + r * secret) % c.order)

/-- The two numbers are the signature of a hash by the holder of a key. -/
def verify (c : Curve) (key : Point) (hash : Bytes) (r s : Nat) : Bool :=
  let n := c.order
  if r = 0 ∨ n ≤ r ∨ s = 0 ∨ n ≤ s then false
  else
    let w := Modular.inverse n s
    let sum := c.add (c.multiple (c.hashNumber hash * w % n) (.ofPair c.base))
      (c.multiple (r * w % n) key)
    match c.coordinates? sum with
    | some (x, _) => x % n == r
    | none => false

end Curve

end LabTrust
